import ChatAgents.Completion
import ChatAgents.Proofs.Characters
set_option autoImplicit false

namespace ChatAgents.Json

theorem toNat_of_isWordChar {c : Char} (h : isWordChar c = true) :
    0x21 ≤ c.toNat ∧ c.toNat < 0x80 := by
  have between {low high : UInt32} (h : (decide (c.val ≥ low) && decide (c.val ≤ high)) = true) :
      low.toNat ≤ c.toNat ∧ c.toNat ≤ high.toNat := by
    rw [Bool.and_eq_true, decide_eq_true_eq, decide_eq_true_eq, ge_iff_le, UInt32.le_iff_toNat_le,
      UInt32.le_iff_toNat_le] at h
    exact h
  simp only [isWordChar, Bool.or_eq_true, beq_iff_eq] at h
  rcases h with ((((digit | lower) | rfl) | rfl) | rfl) | rfl
  · have : 48 ≤ c.toNat ∧ c.toNat ≤ 57 := between digit
    omega
  · have : 97 ≤ c.toNat ∧ c.toNat ≤ 122 := between lower
    omega
  all_goals decide

theorem begin?_eq_none {c : Char} (space : isSpace c = false)
    (far : c.toNat ≤ 0x20 ∨ 0x80 ≤ c.toNat) : Lexer.begin? c = none := by
  have word : isWordChar c = false := by
    rw [Bool.eq_false_iff]
    intro h
    have := toNat_of_isWordChar h
    omega
  have mark : punctuation? c = none := by
    unfold punctuation?
    split <;> first | rfl | (exfalso; revert far; decide)
  have quote : c ≠ '"' := by
    rintro rfl
    revert far
    decide
  simp [Lexer.begin?, space, quote, word, mark]

theorem step_start_of_isBlank (limit : Nat) {c : Char} (h : Text.isBlank c = true) :
    Machine.start.step? limit c = none ∨ Machine.start.step? limit c = some .start := by
  cases space : isSpace c with
  | true => exact .inr (by simp [Machine.step?, Machine.start, Lexer.step?, Lexer.begin?, space])
  | false =>
    have far : c.toNat ≤ 0x20 ∨ 0x80 ≤ c.toNat := by
      obtain ⟨r, hr, low, high⟩ := Text.inRanges_iff.1 h
      simp only [Text.blankRanges, List.mem_cons, List.not_mem_nil, or_false] at hr
      rcases hr with rfl | rfl | rfl | rfl | rfl | rfl | rfl | rfl | rfl | rfl <;>
        simp only at low high <;> omega
    exact .inl (by
      simp [Machine.step?, Machine.start, Lexer.step?, begin?_eq_none space far])

theorem document?_eq_none_of_blank (limit : Nat) {cs : List Char}
    (h : cs.all Text.isBlank = true) : document? limit cs = none := by
  induction cs with
  | nil => rfl
  | cons c cs ih =>
    simp only [List.all_cons, Bool.and_eq_true] at h
    rcases step_start_of_isBlank limit h.1 with refused | passed
    · simp [document?, refused]
    · simpa [document?, passed] using ih h.2

theorem not_isBlankText_of_parse? {s : String} {v : Json} (h : parse? s = some v) :
    Text.isBlankText s = false := by
  rw [Bool.eq_false_iff]
  intro blank
  rw [parse?, document?_eq_none_of_blank maxDepth blank] at h
  simp at h

def IsObject (cs : List Char) : Prop := ∃ members, document? maxDepth cs = some (.obj members)

theorem foldlM_done {limit : Nat} {v : Json} {tokens : List Token} {b : Builder}
    (h : tokens.foldlM (Builder.step? limit) (.done v) = some b) : b = .done v := by
  cases tokens with
  | nil => exact (Option.some.inj h).symm
  | cons t tokens => simp [Builder.step?] at h

theorem step?_done {limit : Nat} {m m' : Machine} {c : Char} {v : Json} (done : m.builder = .done v)
    (h : m.step? limit c = some m') : m'.builder = .done v := by
  obtain ⟨⟨tokens, lexer⟩, -, h⟩ := Option.bind_eq_some_iff.1 h
  obtain ⟨b, read, h⟩ := Option.bind_eq_some_iff.1 h
  rw [done] at read
  obtain rfl := Option.some.inj h
  exact foldlM_done read

theorem foldlM_step?_done {limit : Nat} {cs : List Char} {m m' : Machine} {v : Json}
    (done : m.builder = .done v) (h : cs.foldlM (Machine.step? limit) m = some m') :
    m'.builder = .done v := by
  induction cs generalizing m with
  | nil => exact Option.some.inj h ▸ done
  | cons c cs ih =>
    rw [List.foldlM_cons] at h
    obtain ⟨next, first, rest⟩ := Option.bind_eq_some_iff.1 h
    exact ih (step?_done done first) rest

theorem finish?_done {limit : Nat} {m : Machine} {u v : Json} (done : m.builder = .done u)
    (h : m.finish? limit = some v) : v = u := by
  obtain ⟨tokens, -, h⟩ := Option.bind_eq_some_iff.1 h
  obtain ⟨b, read, h⟩ := Option.bind_eq_some_iff.1 h
  rw [done] at read
  rw [foldlM_done read] at h
  exact (Option.some.inj h).symm

theorem value?_ne_obj {n : Numeral} {members : List (String × Json)} :
    n.value? ≠ some (.obj members) := by
  have float (x : Option Numeric.Binary) (f : Numeric.Binary → Json) (h : ∀ y, f y ≠ .obj members) :
      x.map f ≠ some (.obj members) := by
    cases x with
    | none => simp
    | some y => simpa using h y
  unfold Numeral.value?
  dsimp only
  split
  · split
    · simp
    · split
      · simp
      · exact float _ _ fun y => by simp
  · exact float _ _ fun y => by simp

theorem atom?_ne_obj {word : List Char} {members : List (String × Json)} :
    atom? word ≠ some (.obj members) := by
  unfold atom?
  split
  · simp
  · split
    · simp
    · split
      · simp
      · intro h
        obtain ⟨n, -, h⟩ := Option.bind_eq_some_iff.1 h
        exact value?_ne_obj h

/-- Nothing but one word has been read, or a document complete with it. -/
def Machine.Wordy (m : Machine) : Prop :=
  (m.builder = .value [] ∧ ∃ rev, m.lexer = .word rev) ∨
    ∃ v, m.builder = .done v ∧ ∀ members, v ≠ .obj members

theorem wordy_of_atom {limit : Nat} {word : List Char} {v : Json} (read : atom? word = some v)
    {tokens : List Token} {b : Builder}
    (h : (Token.atom v :: tokens).foldlM (Builder.step? limit) (.value []) = some b) :
    b = .done v ∧ ∀ members, v ≠ .obj members := by
  refine ⟨foldlM_done h, ?_⟩
  rintro members rfl
  exact atom?_ne_obj read

theorem step?_wordy {limit : Nat} {m m' : Machine} {c : Char} (wordy : m.Wordy)
    (h : m.step? limit c = some m') : m'.Wordy := by
  rcases wordy with ⟨start, rev, word⟩ | ⟨v, done, plain⟩
  · obtain ⟨⟨tokens, lexer⟩, lexed, h⟩ := Option.bind_eq_some_iff.1 h
    obtain ⟨b, read, h⟩ := Option.bind_eq_some_iff.1 h
    obtain rfl := Option.some.inj h
    rw [word, Lexer.step?] at lexed
    rw [start] at read
    split at lexed
    · cases lexed
      exact .inl ⟨(Option.some.inj read).symm, _, rfl⟩
    · obtain ⟨v, atom, lexed⟩ := Option.bind_eq_some_iff.1 lexed
      obtain ⟨⟨more, lexer'⟩, -, lexed⟩ := Option.bind_eq_some_iff.1 lexed
      cases lexed
      exact .inr ⟨v, wordy_of_atom atom read⟩
  · exact .inr ⟨v, step?_done done h, plain⟩

theorem foldlM_step?_wordy {limit : Nat} {cs : List Char} {m m' : Machine} (wordy : m.Wordy)
    (h : cs.foldlM (Machine.step? limit) m = some m') : m'.Wordy := by
  induction cs generalizing m with
  | nil => exact Option.some.inj h ▸ wordy
  | cons c cs ih =>
    rw [List.foldlM_cons] at h
    obtain ⟨next, first, rest⟩ := Option.bind_eq_some_iff.1 h
    exact ih (step?_wordy wordy first) rest

theorem finish?_wordy {limit : Nat} {m : Machine} {v : Json} (wordy : m.Wordy)
    (h : m.finish? limit = some v) (members : List (String × Json)) : v ≠ .obj members := by
  rcases wordy with ⟨start, rev, word⟩ | ⟨u, done, plain⟩
  · obtain ⟨tokens, lexed, h⟩ := Option.bind_eq_some_iff.1 h
    obtain ⟨b, read, h⟩ := Option.bind_eq_some_iff.1 h
    rw [word] at lexed
    obtain ⟨u, atom, rfl⟩ := Option.map_eq_some_iff.1 lexed
    rw [start] at read
    obtain ⟨rfl, plain⟩ := wordy_of_atom atom read
    obtain rfl := Option.some.inj h
    exact plain members
  · obtain rfl := finish?_done done h
    exact plain members

theorem complete_eq_done {u v : Json} {outer : List Frame} (h : Builder.complete v outer = .done u) :
    outer = [] := by
  rcases outer with _ | ⟨_ | _, outer⟩
  · rfl
  · simp [Builder.complete] at h
  · simp [Builder.complete] at h

theorem step?_atom_eq_done {limit : Nat} {b : Builder} {u v : Json}
    (h : b.step? limit (.atom v) = some (.done u)) : b = .value [] := by
  cases b with
  | value outer =>
    rw [complete_eq_done (Option.some.inj h)]
  | firstItem outer =>
    have := complete_eq_done (Option.some.inj h)
    simp at this
  | firstKey _ | key _ _ | colon _ _ _ | afterItem _ _ | afterMember _ _ | done _ =>
    simp [Builder.step?] at h

theorem done_or_wordy_of_finish? {limit : Nat} {m : Machine} {u : Json}
    (h : m.finish? limit = some u) : m.builder = .done u ∨ m.Wordy := by
  obtain ⟨tokens, lexed, h⟩ := Option.bind_eq_some_iff.1 h
  obtain ⟨b, built, h⟩ := Option.bind_eq_some_iff.1 h
  obtain rfl : b = .done u := by
    cases b <;> simp_all
  cases hl : m.lexer with
  | between =>
    rw [hl] at lexed
    obtain rfl := Option.some.inj lexed
    exact .inl (Option.some.inj built)
  | word rev =>
    rw [hl] at lexed
    obtain ⟨v, -, rfl⟩ := Option.map_eq_some_iff.1 lexed
    obtain ⟨next, first, rest⟩ := Option.bind_eq_some_iff.1 built
    obtain rfl := Option.some.inj rest
    exact .inr (.inl ⟨step?_atom_eq_done first, rev, hl⟩)
  | text _ | escape _ | unicode _ _ _ _ | lead _ _ | leadEscape _ _ =>
    rw [hl] at lexed
    simp [Lexer.finish?] at lexed

theorem document?_front {limit : Nat} {front back : List Char} {u : Json}
    {members : List (String × Json)} (part : document? limit front = some u)
    (whole : document? limit (front ++ back) = some (.obj members)) : u = .obj members := by
  obtain ⟨m, read, ended⟩ := Option.bind_eq_some_iff.1 part
  rw [document?, foldlM_step_append, read] at whole
  obtain ⟨m', rest, whole⟩ := Option.bind_eq_some_iff.1 whole
  rcases done_or_wordy_of_finish? ended with done | wordy
  · exact (finish?_done (foldlM_step?_done done rest) whole).symm
  · exact absurd rfl (finish?_wordy (foldlM_step?_wordy wordy rest) whole members)

theorem begin?_far {c : Char} (far : 0x80 ≤ c.toNat) : Lexer.begin? c = none := by
  have other {d : Char} (ascii : d.toNat < 0x80) : (c == d) = false := by
    rw [beq_eq_false_iff_ne]
    rintro rfl
    omega
  have space : isSpace c = false := by
    simp only [isSpace, other (d := ' ') (by decide), other (d := '\t') (by decide),
      other (d := '\n') (by decide), other (d := '\r') (by decide), Bool.or_self]
  exact begin?_eq_none space (.inr far)

theorem hexDigit?_far {c : Char} (far : 0x80 ≤ c.toNat) : Text.hexDigit? c = none := by
  have digit : ¬ c.isDigit = true := by
    simp only [Char.isDigit, Bool.and_eq_true, decide_eq_true_eq, ge_iff_le,
      UInt32.le_iff_toNat_le]
    change ¬ (48 ≤ c.toNat ∧ c.toNat ≤ 57)
    omega
  have lower : ¬ ('a' ≤ c ∧ c ≤ 'f') := by
    simp only [Char.le_def, UInt32.le_iff_toNat_le]
    change ¬ (97 ≤ c.toNat ∧ c.toNat ≤ 102)
    omega
  have upper : ¬ ('A' ≤ c ∧ c ≤ 'F') := by
    simp only [Char.le_def, UInt32.le_iff_toNat_le]
    change ¬ (65 ≤ c.toNat ∧ c.toNat ≤ 70)
    omega
  rw [Text.hexDigit?, if_neg digit, if_neg lower, if_neg upper]

theorem lexer_of_step?_far {l : Lexer} {c : Char} (far : 0x80 ≤ c.toNat) {r : List Token × Lexer}
    (h : l.step? c = some r) : ∃ rev, l = .text rev := by
  have other {d : Char} (ascii : d.toNat < 0x80) : c ≠ d := by
    rintro rfl
    omega
  cases l with
  | text rev => exact ⟨rev, rfl⟩
  | between => simp [Lexer.step?, begin?_far far] at h
  | word rev =>
    have word : isWordChar c = false := by
      rw [Bool.eq_false_iff]
      intro h
      have := toNat_of_isWordChar h
      omega
    simp [Lexer.step?, word, begin?_far far] at h
  | escape rev =>
    have ascii : ∀ p ∈ escapes, p.1.toNat < 0x80 := by decide
    have unnamed : escapes.lookup c = none := by
      rw [List.lookup_eq_none_iff]
      intro p hp
      simpa using other (ascii p hp)
    have not_u : c ≠ 'u' := other (by decide)
    simp [Lexer.step?, not_u, unnamed] at h
  | unicode rev lead? count value => simp [Lexer.step?, hexDigit?_far far] at h
  | lead rev value =>
    have not_slash : c ≠ '\\' := other (by decide)
    simp [Lexer.step?, not_slash] at h
  | leadEscape rev value =>
    have not_u : c ≠ 'u' := other (by decide)
    simp [Lexer.step?, not_u] at h

theorem document?_replacement {limit : Nat} {front back : List Char} {c : Char}
    (far : 0x80 ≤ c.toNat) {v : Json} (whole : document? limit (front ++ c :: back) = some v) :
    document? limit (front ++ [Text.Utf8.replacement]) = none := by
  obtain ⟨m, read, -⟩ := Option.bind_eq_some_iff.1 whole
  rw [foldlM_step_append] at read
  obtain ⟨m', front_read, read⟩ := Option.bind_eq_some_iff.1 read
  rw [List.foldlM_cons] at read
  obtain ⟨next, first, -⟩ := Option.bind_eq_some_iff.1 read
  obtain ⟨r, lexed, -⟩ := Option.bind_eq_some_iff.1 first
  -- the character was read inside of a text, which is still open behind its replacement
  obtain ⟨rev, text⟩ := lexer_of_step?_far far lexed
  obtain ⟨lexer, builder⟩ := m'
  obtain rfl := text
  rw [document?, foldlM_step_append, front_read]
  rfl

/-- What is read of an object that breaks off is no document or the object. -/
theorem document?_cut {limit : Nat} {cs x : List Char} {members : List (String × Json)}
    (whole : document? limit cs = some (.obj members)) (cut : Text.Utf8.Cut cs x) :
    document? limit x = none ∨ document? limit x = some (.obj members) := by
  cases cut with
  | between _ back =>
    cases part : document? limit x with
    | none => exact .inl rfl
    | some u => exact .inr (congrArg some (document?_front part whole))
  | inside front c back far => exact .inl (document?_replacement far whole)

end ChatAgents.Json
