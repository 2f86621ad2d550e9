import ChatAgents.Http.Url.Authority
import ChatAgents.Proofs.Characters
import Mathlib.Data.List.TakeWhile
set_option autoImplicit false

namespace ChatAgents

def IsOuter (c : Char) : Prop := c.toNat ≤ 0x20

instance : DecidablePred IsOuter := fun c => inferInstanceAs (Decidable (c.toNat ≤ 0x20))

theorem IsOuter.of_all {c : Char} (outer : IsOuter c) {p : Char → Prop}
    (all : ∀ n < 0x21, p (Char.ofNat n)) : p c := by
  have found := all c.toNat (Nat.lt_succ_of_le outer)
  rwa [Char.ofNat_toNat] at found

namespace Text

namespace Utf8

/-- What is expected inside a character are bytes beyond ASCII. -/
def State.Far : State → Prop
  | .between => True
  | .inside _ _ low _ => 0x80 ≤ low.toNat

theorem far_stepBetween (b : UInt8) : (stepBetween b).2.Far := by
  rw [stepBetween]
  split
  · exact trivial
  · split
    · next s lead =>
      simp only [State.ofLead?] at lead
      repeat' split at lead
      all_goals cases lead
      all_goals simp [State.Far]
    · exact trivial

theorem far_step (s : State) (b : UInt8) : (step s b).2.Far := by
  cases s with
  | between => exact far_stepBetween b
  | inside more value low high =>
    rw [step]
    split
    · split
      · exact trivial
      · exact trivial
      · exact Nat.le_refl _
    · exact far_stepBetween b

theorem stepBetween_ascii {b : UInt8} (ascii : b.toNat < 0x80) :
    stepBetween b = ([some (Char.ofNat b.toNat)], .between) := by
  have below : b < 0x80 := UInt8.lt_iff_toNat_lt.2 ascii
  rw [stepBetween, if_pos below]

theorem mem_step_ascii {s : State} (far : s.Far) {b : UInt8} (ascii : b.toNat < 0x80) :
    some (Char.ofNat b.toNat) ∈ (step s b).1 := by
  cases s with
  | between =>
    rw [step, stepBetween_ascii ascii]
    exact List.mem_singleton.2 rfl
  | inside more value low high =>
    have below : b.toNat < low.toNat := Nat.lt_of_lt_of_le ascii far
    have outside : ¬ (low ≤ b ∧ b ≤ high) := by
      rw [UInt8.le_iff_toNat_le]
      omega
    rw [step, if_neg outside, stepBetween_ascii ascii]
    simp

theorem mem_decodeFrom {s : State} (far : s.Far) {bs : List UInt8} {b : UInt8} (member : b ∈ bs)
    (ascii : b.toNat < 0x80) : some (Char.ofNat b.toNat) ∈ decodeFrom s bs := by
  induction bs generalizing s with
  | nil => cases member
  | cons first rest ih =>
    rw [decodeFrom_cons, List.mem_append]
    rcases List.mem_cons.1 member with rfl | later
    · exact .inl (mem_step_ascii far ascii)
    · exact .inr (ih (far_step s first) later)

theorem encodeChar_ascii {c : Char} (h : c.toNat ≤ 0x7F) :
    encodeChar c = [UInt8.ofNat c.toNat] := by
  have ascii : c.val.toNat ≤ 0x7F := h
  simp only [encodeChar, String.utf8EncodeChar, ascii, if_true]
  rfl

end Utf8

namespace Substitution

/-- No control character and no space stands for others, or is among those that others stand for. -/
def Clear (s : Substitution) : Prop := ∀ row ∈ s, ∀ c ∈ row.1 :: row.2, 0x20 < c.toNat

/-- The words of a line that begins with a key, and has no control character and no space in it. -/
def isClearLine (cs : List Char) : Bool :=
  let words := splitAll (· == ' ') cs
  words.head?.any (·.getLast? == some ':') &&
    (readWords 0 words).all fun row => (row.1 :: row.2).all fun c => 0x20 < c.toNat

theorem readWords_append (next : Nat) (words : List (List Char)) {more : List (List Char)}
    (key : ∀ w ∈ more.head?, w.getLast? = some ':') :
    readWords next (words ++ more) = readWords next words ++ readWords 0 more := by
  induction words generalizing next with
  | nil =>
    cases more with
    | nil => rfl
    | cons w rest =>
      have named : w.getLast? = some ':' := key w rfl
      have begun (next : Nat) :
          readWords next (w :: rest) = readWords (hexNumber w.dropLast) rest := by
        rw [readWords, if_pos named]
      rw [List.nil_append, begun, begun]
      rfl
  | cons w rest ih =>
    rw [List.cons_append, readWords, readWords]
    split
    · exact ih _
    · rw [ih, List.cons_append]

theorem ofLines_eq_flatMap {lines : List String}
    (clear : ∀ line ∈ lines, isClearLine line.toList = true) :
    ofLines lines = lines.flatMap fun line => readWords 0 (splitAll (· == ' ') line.toList) := by
  induction lines with
  | nil => rfl
  | cons line rest ih =>
    have begun : ∀ w ∈ (rest.flatMap fun line => splitAll (· == ' ') line.toList).head?,
        w.getLast? = some ':' := by
      cases rest with
      | nil => simp
      | cons second others =>
        intro w first
        have words := clear second (by simp)
        rw [isClearLine, Bool.and_eq_true, Option.any_eq_true] at words
        obtain ⟨key, heads, ends⟩ := words.1
        rw [List.flatMap_cons, List.head?_append, heads, Option.some_or] at first
        obtain rfl := Option.some.inj first
        exact beq_iff_eq.1 ends
    have behind := ih fun line member => clear line (List.mem_cons_of_mem _ member)
    rw [ofLines] at behind ⊢
    rw [List.flatMap_cons, List.flatMap_cons, readWords_append 0 _ begun, behind]

theorem clear_ofLines {lines : List String}
    (clear : ∀ line ∈ lines, isClearLine line.toList = true) : Clear (ofLines lines) := by
  intro row member c part
  rw [ofLines_eq_flatMap clear] at member
  obtain ⟨line, among, member⟩ := List.mem_flatMap.1 member
  have checked := clear line among
  rw [isClearLine, Bool.and_eq_true, List.all_eq_true] at checked
  have rows := checked.2 row member
  rw [List.all_eq_true] at rows
  exact of_decide_eq_true (rows c part)

theorem isClearLine_of_chars {cs : List Char} (h : isClearLine cs = true) :
    isClearLine (String.ofList cs).toList = true := by rwa [String.toList_ofList]

theorem target_of_clear {s : Substitution} (clear : Clear s) {c : Char} (outer : IsOuter c) :
    s.target c = [c] := by
  have unlisted : s.lookup c = none := by
    rw [List.lookup_eq_none_iff]
    intro row member
    have key := clear row member row.1 List.mem_cons_self
    rw [bne_iff_ne]
    rintro rfl
    exact Nat.not_lt_of_le outer key
  rw [target, unlisted]
  rfl

end Substitution

theorem clear_tables : composites.Clear ∧ lastingDecompositions.Clear := by
  constructor
  all_goals
    apply Substitution.clear_ofLines
    simp only [List.forall_mem_cons]
    and_intros
  all_goals first
    | exact Substitution.isClearLine_of_chars (by decide +kernel)
    | exact List.forall_mem_nil _

theorem clear_decompositions : decompositions.Clear := by
  intro row member
  rcases List.mem_append.1 member with here | there
  · exact clear_tables.1 row here
  · exact clear_tables.2 row there

section

variable {c : Char} (outer : IsOuter c)
include outer

theorem placeIn?_outer {first : Nat} (beyond : 0x20 < first) (count : Nat) :
    placeIn? first count c = none := by
  have before : ¬ (first ≤ c.toNat ∧ c.toNat < first + count) := by
    have := outer
    rw [IsOuter] at this
    omega
  rw [placeIn?, if_neg before]

theorem parts_outer : parts c = [c] := by
  have no_syllable : syllableParts? c = none := by
    rw [syllableParts?, placeIn?_outer outer (by decide)]
    rfl
  rw [parts, no_syllable, Option.getD_none,
    Substitution.target_of_clear clear_decompositions outer]

theorem mem_flatMap_parts {cs : List Char} (member : c ∈ cs) : c ∈ cs.flatMap parts := by
  refine List.mem_flatMap.2 ⟨c, member, ?_⟩
  rw [parts_outer outer]
  exact List.mem_singleton.2 rfl

theorem mem_decompose {cs : List Char} (member : c ∈ cs) : c ∈ decompose cs :=
  mem_flatMap_parts outer (mem_flatMap_parts outer (mem_flatMap_parts outer member))

theorem composite?_outer {d e : Char} (one : c = d ∨ c = e) : composite? d e = none := by
  have no_syllable : syllable? d e = none := by
    rcases one with rfl | rfl
    · rw [syllable?, placeIn?_outer outer (by decide), placeIn?_outer outer (by decide)]
    · rw [syllable?, placeIn?_outer outer (by decide), placeIn?_outer outer (by decide)]
      split
      · next second => cases second
      · split
        · next second => cases second
        · rfl
  have no_row : composites.find? (fun row => row.2 == [d, e]) = none := by
    rw [List.find?_eq_none]
    intro row member same
    have among : c ∈ row.1 :: row.2 := by
      rw [beq_iff_eq.1 same]
      simpa using .inr one
    exact Nat.not_lt_of_le outer (clear_tables.1 row member c among)
  rw [composite?, no_syllable, no_row]
  rfl

theorem mem_composeFrom {first : Char} {kept cs : List Char}
    (member : c = first ∨ c ∈ kept ∨ c ∈ cs) : c ∈ composeFrom first kept cs := by
  fun_induction composeFrom first kept cs with
  | case1 => simpa using member
  | case2 first kept d ds free e together ih =>
    have apart : ¬ (c = first ∨ c = d) := by
      intro one
      rw [composite?_outer outer one] at together
      simp at together
    apply ih
    rcases member with here | among | behind
    · exact absurd (.inl here) apart
    · exact .inr (.inl among)
    · rcases List.mem_cons.1 behind with next | later
      · exact absurd (.inr next) apart
      · exact .inr (.inr later)
  | case3 first kept d ds free _ _ ih =>
    rw [List.mem_append, List.mem_cons, List.mem_reverse]
    rcases member with here | among | behind
    · exact .inl (.inl here)
    · exact .inl (.inr among)
    · exact .inr (ih ((List.mem_cons.1 behind).imp_right .inr))
  | case4 first kept d ds free _ _ ih =>
    apply ih
    rcases member with here | among | behind
    · exact .inl here
    · exact .inr (.inl (List.mem_cons_of_mem d among))
    · rcases List.mem_cons.1 behind with next | later
      · exact .inr (.inl (next ▸ List.mem_cons_self))
      · exact .inr (.inr later)

theorem mem_compose {cs : List Char} (member : c ∈ cs) : c ∈ compose cs := by
  fun_induction compose cs with
  | case1 => exact member
  | case2 first cs _ => exact mem_composeFrom outer ((List.mem_cons.1 member).imp_right .inr)
  | case3 first cs _ ih =>
    rcases List.mem_cons.1 member with rfl | later
    · exact List.mem_cons_self
    · exact List.mem_cons_of_mem first (ih later)

theorem mem_normal {cs : List Char} (member : c ∈ cs) : c ∈ normal cs :=
  mem_compose outer ((orderMarks_perm _).mem_iff.2 (mem_decompose outer member))

end

theorem mem_splitAll {p : Char → Bool} {c : Char} (stays : p c = false) {cs : List Char}
    (member : c ∈ cs) : ∃ part ∈ splitAll p cs, c ∈ part := by
  induction cs with
  | nil => cases member
  | cons d ds ih =>
    rw [splitAll]
    rcases List.mem_cons.1 member with rfl | later
    · rw [stays]
      cases splitAll p ds <;> simp
    · obtain ⟨part, among, inside⟩ := ih later
      split
      · exact ⟨part, List.mem_cons_of_mem _ among, inside⟩
      · cases parts : splitAll p ds with
        | nil => exact absurd parts (splitAll_ne_nil p ds)
        | cons front rest =>
          rw [parts] at among
          rcases List.mem_cons.1 among with rfl | behind
          · exact ⟨d :: part, List.mem_cons_self, List.mem_cons_of_mem d inside⟩
          · exact ⟨part, List.mem_cons_of_mem _ behind, inside⟩

end Text

theorem mapM_eq_none {α β : Type} {f : α → Option β} {xs : List α} {x : α} (member : x ∈ xs)
    (fails : f x = none) : xs.mapM f = none := by
  induction xs with
  | nil => cases member
  | cons y ys ih =>
    rw [List.mapM_cons]
    rcases List.mem_cons.1 member with rfl | later
    · rw [fails]
      rfl
    · rw [ih later]
      cases f y <;> rfl

namespace Http

section

variable {c : Char} (outer : IsOuter c)
include outer

theorem mem_percentDecode {cs : List Char} (member : c ∈ cs) :
    UInt8.ofNat c.toNat ∈ percentDecode cs := by
  have no_percent : c ≠ '%' := outer.of_all (p := (· ≠ '%')) (by decide)
  have no_digit : Text.hexDigit? c = none :=
    outer.of_all (p := fun c => Text.hexDigit? c = none) (by decide)
  have own_byte : UInt8.ofNat c.toNat ∈ Text.Utf8.encodeChar c := by
    rw [Text.Utf8.encodeChar_ascii (Nat.le_trans outer (by decide))]
    exact List.mem_singleton.2 rfl
  -- two digits behind a percent sign are left out at once, so the induction is on the length
  induction length : cs.length using Nat.strongRecOn generalizing cs with
  | _ n ih =>
    cases cs with
    | nil => cases member
    | cons d ds =>
      have later (here : c ∈ ds) : UInt8.ofNat c.toNat ∈ percentDecode ds :=
        ih ds.length (length ▸ Nat.lt_succ_self _) here rfl
      have kept : UInt8.ofNat c.toNat ∈ Text.Utf8.encodeChar d ++ percentDecode ds := by
        rw [List.mem_append]
        rcases List.mem_cons.1 member with rfl | behind
        · exact .inl own_byte
        · exact .inr (later behind)
      unfold percentDecode
      dsimp only
      split
      · next percent =>
        split
        · next high low rest =>
          split
          · next h l high_digit low_digit =>
            have elsewhere : c ≠ high ∧ c ≠ low := by
              constructor
              · rintro rfl
                rw [no_digit] at high_digit
                cases high_digit
              · rintro rfl
                rw [no_digit] at low_digit
                cases low_digit
            simp only [List.mem_cons, percent, no_percent, elsewhere.1, elsewhere.2, false_or]
              at member
            have shorter : rest.length < n := by
              rw [← length, List.length_cons, List.length_cons, List.length_cons]
              omega
            exact List.mem_cons_of_mem _ (ih rest.length shorter member rfl)
          · exact kept
        · exact kept
      · exact kept

theorem mem_decodeLossy {cs : List Char} (member : c ∈ cs) :
    c ∈ Text.Utf8.decodeLossy (percentDecode cs) := by
  have low : c.toNat ≤ 0x20 := outer
  have byte : (UInt8.ofNat c.toNat).toNat = c.toNat := Text.Utf8.toNat_ofNat_of_lt (by omega)
  have ascii : (UInt8.ofNat c.toNat).toNat < 0x80 := by omega
  have read := Text.Utf8.mem_decodeFrom (s := .between) trivial (mem_percentDecode outer member)
    ascii
  rw [byte, Char.ofNat_toNat] at read
  exact List.mem_map.2 ⟨some c, read, rfl⟩

namespace DomainName

theorem isAscii_outer : Punycode.isAscii c = true :=
  outer.of_all (p := fun c => Punycode.isAscii c = true) (by decide)

theorem toLower_outer : c.toLower = c := outer.of_all (p := fun c => c.toLower = c) (by decide)

theorem mem_plainText {cs : List Char} (member : c ∈ cs) : c ∈ plainText cs := by
  rw [plainText]
  split
  · exact List.mem_map.2 ⟨c, member, toLower_outer outer⟩
  · refine Text.mem_normal outer (List.mem_flatMap.2 ⟨c, member, ?_⟩)
    rw [plain, if_pos (isAscii_outer outer), toLower_outer outer]
    exact List.mem_singleton.2 rfl

theorem mayFollow_outer {before cs : List Char} (member : c ∈ cs) :
    mayFollow before cs = false := by
  induction cs generalizing before with
  | nil => cases member
  | cons d ds ih =>
    rw [mayFollow, Bool.and_eq_false_iff]
    rcases List.mem_cons.1 member with rfl | later
    · have no_joiner : ¬ (c = nonJoiner ∨ c = joiner) :=
        outer.of_all (p := fun c => ¬ (c = nonJoiner ∨ c = joiner)) (by decide)
      have reserved : isReserved c = true :=
        outer.of_all (p := fun c => isReserved c = true) (by decide)
      left
      rw [if_neg no_joiner, isRefused, reserved]
      rfl
    · exact .inr (ih later)

theorem label?_outer {cs : List Char} (member : c ∈ cs) : label? cs = none := by
  have reserved : cs.any isReserved = true :=
    List.any_eq_true.2 ⟨c, member, outer.of_all (p := fun c => isReserved c = true) (by decide)⟩
  have no_label : isLabel cs = false := by
    rw [isLabel, mayFollow_outer outer member, Bool.and_false]
  rw [label?, reserved, no_label]
  split <;> rfl

theorem toAscii?_outer {cs : List Char} (member : c ∈ cs) : toAscii? cs = none := by
  have no_dot : (c == '.') = false := outer.of_all (p := fun c => (c == '.') = false) (by decide)
  obtain ⟨part, among, inside⟩ :=
    Text.mem_splitAll (p := (· == '.')) no_dot (mem_plainText outer member)
  rw [toAscii?, mapM_eq_none among (label?_outer outer inside)]
  rfl

end DomainName

theorem domain?_outer (front : List Char) : Host.domain? (front ++ [c]) = none := by
  have no_name : DomainName.toAscii?
      (Text.Utf8.decodeLossy (percentDecode (front ++ [c]))) = none :=
    DomainName.toAscii?_outer outer (mem_decodeLossy outer (by simp))
  have no_bracket : c ≠ '[' ∧ c ≠ ']' := outer.of_all (p := fun c => c ≠ '[' ∧ c ≠ ']') (by decide)
  cases front with
  | nil =>
    rw [List.nil_append] at no_name ⊢
    rw [Host.domain?, no_name]
    · rfl
    · intro inner same
      exact no_bracket.1 (List.cons.inj same).1
  | cons first rest =>
    by_cases bracket : first = '['
    · have unclosed : (rest ++ [c]).getLast? ≠ some ']' := by
        rw [List.getLast?_append]
        simpa using no_bracket.2
      rw [bracket, List.cons_append, Host.domain?, Host.bracketed?, if_neg unclosed]
    · rw [Host.domain?, no_name]
      · rfl
      · intro inner same
        exact bracket (List.cons.inj same).1

namespace Authority

theorem splitPort_outer (inBrackets : Bool) (front : List Char) :
    (∃ host, splitPort inBrackets (front ++ [c]) = (host ++ [c], none)) ∨
      ∃ host port, splitPort inBrackets (front ++ [c]) = (host, some (port ++ [c])) ∧
        ∀ d ∈ port, d ∈ front := by
  have no_colon : c ≠ ':' := outer.of_all (p := (· ≠ ':')) (by decide)
  induction front generalizing inBrackets with
  | nil =>
    left
    refine ⟨[], ?_⟩
    rw [List.nil_append, splitPort, if_neg (by simp [no_colon])]
    rfl
  | cons d ds ih =>
    rw [List.cons_append, splitPort]
    split
    · exact .inr ⟨[], ds, rfl, fun e => List.mem_cons_of_mem d⟩
    · rcases ih (d == '[' || (d != ']' && inBrackets)) with
        ⟨host, split⟩ | ⟨host, port, split, among⟩
      · rw [split]
        exact .inl ⟨d :: host, rfl⟩
      · rw [split]
        exact .inr ⟨d :: host, port, rfl, fun e inside => List.mem_cons_of_mem d (among e inside)⟩

theorem readPort?_outer (k : SchemeKind) {front : List Char} (plain : '\\' ∉ front) :
    readPort? k (front ++ [c]) = none := by
  have no_digit : c.isDigit = false := outer.of_all (p := fun c => c.isDigit = false) (by decide)
  have no_backslash : c ≠ '\\' := outer.of_all (p := (· ≠ '\\')) (by decide)
  have goes_on : ((front ++ [c]).dropWhile Char.isDigit).head?.any (· != '\\') = true := by
    cases rest : (front ++ [c]).dropWhile Char.isDigit with
    | nil =>
      have digits := List.dropWhile_eq_nil_iff.1 rest c (by simp)
      rw [no_digit] at digits
      cases digits
    | cons d ds =>
      have among : d ∈ front ++ [c] :=
        (List.dropWhile_sublist Char.isDigit).subset (rest ▸ List.mem_cons_self)
      have other : d ≠ '\\' := by
        rintro rfl
        rcases List.mem_append.1 among with here | last
        · exact plain here
        · exact no_backslash (List.mem_singleton.1 last).symm
      simpa using other
  rw [readPort?]
  cases digitsValue? 10 ((front ++ [c]).takeWhile Char.isDigit) with
  | none => rfl
  | some port => exact if_pos (.inr goes_on)

theorem splitLast_outer (front : List Char) : ∃ user place,
    Text.splitLast '@' (front ++ [c]) = (user, place ++ [c]) ∧ ∀ d ∈ place, d ∈ front := by
  have no_at : (c != '@') = true := outer.of_all (p := fun c => (c != '@') = true) (by decide)
  have among : ∀ d ∈ (front.reverse.takeWhile (· != '@')).reverse, d ∈ front := by
    intro d member
    rw [List.mem_reverse] at member
    exact List.mem_reverse.1 ((List.takeWhile_prefix _).subset member)
  rw [Text.splitLast, List.reverse_append, List.reverse_singleton, List.singleton_append,
    Text.splitFirst, List.dropWhile_cons_of_pos (p := (· != '@')) no_at,
    List.takeWhile_cons_of_pos (p := (· != '@')) no_at]
  cases front.reverse.dropWhile (· != '@') with
  | nil => exact ⟨none, front, by simp, fun d => id⟩
  | cons at_sign user => exact ⟨some user.reverse, _, by simp, among⟩

theorem read?_outer {k : SchemeKind} (named : k ≠ .other) {front : List Char}
    (plain : '\\' ∉ front) (followed : Bool) : read? k (front ++ [c]) followed = none := by
  obtain ⟨user, place, split, among⟩ := splitLast_outer outer front
  have not_empty : ¬ (user = some [] ∧ place ++ [c] = [] ∧ followed = true) := by simp
  rw [read?, split]
  dsimp only
  rw [if_neg not_empty, if_neg named]
  rcases splitPort_outer outer false place with ⟨host, parts⟩ | ⟨host, port, parts, within⟩
  · rw [parts]
    dsimp only
    rw [domain?_outer outer]
    rfl
  · have unread := readPort?_outer outer k (fun member => plain (among _ (within _ member)))
    rw [parts]
    dsimp only [Option.getD_some]
    rw [unread]
    cases Host.domain? host <;> rfl

end Authority

end

end Http
end ChatAgents
