import ChatAgents.Proofs.TextEnds
import ChatAgents.Proofs.WrittenEvents
set_option autoImplicit false

namespace ChatAgents.Http

namespace Decoder

open Text (dropTail exists_tail isBlank trimEndChars)
open Text.Utf8 (decodeLossy)

def unspaced : List Char → List Char
  | ' ' :: value => value
  | value => value

theorem unspaced_eq_self {value : List Char} (plain : value.head? ≠ some ' ') :
    unspaced value = value := by
  unfold unspaced
  split
  · exact absurd rfl plain
  · rfl

theorem splitField_colon {front : List Char} (h : ':' ∉ front) (rest : List Char) :
    splitField (front ++ ':' :: rest) = (front, unspaced rest) := by
  have before : ∀ c ∈ front, (c != ':') = true := fun c hc =>
    bne_iff_ne.2 (ne_of_mem_of_not_mem hc h)
  have kept : (front ++ ':' :: rest).takeWhile (· != ':') = front := by
    rw [List.takeWhile_append_of_pos before]
    simp
  have dropped : (front ++ ':' :: rest).dropWhile (· != ':') = ':' :: rest := by
    rw [List.dropWhile_append_of_pos before]
    simp
  rw [splitField, dropped, kept]
  unfold unspaced
  split <;> simp_all

theorem splitField_whole {line : List Char} (h : ':' ∉ line) : splitField line = (line, []) := by
  have dropped : line.dropWhile (· != ':') = [] := by
    rw [List.dropWhile_eq_nil_iff]
    exact fun c hc => bne_iff_ne.2 (ne_of_mem_of_not_mem hc h)
  rw [splitField, dropped]

/-- The field of a line that counts, and its value. -/
def said (line : List Char) : Option (Field × List Char) :=
  let (field, value) := splitField line
  if field = Field.name.label then some (.name, value)
  else if field = Field.data.label then some (.data, value)
  else none

def hear (d : Decoder) (said : Option (Field × List Char)) : Decoder :=
  said.elim d fun s => d.addField s.1.label s.2

theorem hear_said (d : Decoder) (line : List Char) :
    d.hear (said line) = d.addField (splitField line).1 (splitField line).2 := by
  have apart : Field.data.label ≠ Field.name.label := by decide
  rw [said]
  dsimp only
  split <;> rename_i name
  · rw [name]
    rfl
  · split <;> rename_i data
    · rw [data]
      rfl
    · exact ((if_neg name).trans (if_neg data)).symm

theorem flush_eq_dispatch (d : Decoder) (line : List Char) :
    d.flush line = (d.hear (said line)).dispatch.2 := by
  rw [hear_said]
  cases line with
  | nil => exact d.flush_nil
  | cons c rest =>
    by_cases comment : c = ':'
    · subst comment
      have nothing : splitField (':' :: rest) = ([], unspaced rest) :=
        @splitField_colon [] List.not_mem_nil rest
      rw [nothing]
      rfl
    · have read : d.readLine (c :: rest) =
          (d.addField (splitField (c :: rest)).1 (splitField (c :: rest)).2, none) := by
        rw [readLine]
        · simp
        · rintro _ ⟨⟩
          exact comment rfl
      rw [flush, read]

theorem label_without_colon (f : Field) : ':' ∉ f.label := by cases f <;> decide

theorem label_without_blank (f : Field) : ∀ c ∈ f.label, isBlank c = false := by
  have shown : f.label.any isBlank = false := by cases f <;> decide
  simpa using shown

theorem said_of_field {line value : List Char} (f : Field)
    (h : splitField line = (f.label, value)) :
    said line = some (f, value) := by
  rw [said, h]
  cases f <;> rfl

theorem said_colon (f : Field) (rest : List Char) :
    said (f.label ++ ':' :: rest) = some (f, unspaced rest) :=
  said_of_field f (splitField_colon (label_without_colon f) rest)

theorem said_label (f : Field) : said f.label = some (f, []) :=
  said_of_field f (splitField_whole (label_without_colon f))

theorem line_of_said {line value : List Char} {f : Field} (h : said line = some (f, value)) :
    (line = f.label ∧ value = []) ∨
      ∃ rest, line = f.label ++ ':' :: rest ∧ value = unspaced rest := by
  have field : splitField line = (f.label, value) := by
    rw [said] at h
    dsimp only at h
    split at h <;> rename_i name
    · obtain ⟨rfl, rfl⟩ := Prod.mk.inj (Option.some.inj h)
      exact Prod.ext name rfl
    · split at h <;> rename_i data
      · obtain ⟨rfl, rfl⟩ := Prod.mk.inj (Option.some.inj h)
        exact Prod.ext data rfl
      · cases h
  by_cases colon : ':' ∈ line
  · obtain ⟨front, rest, rfl, first⟩ := List.eq_append_cons_of_mem colon
    rw [splitField_colon first] at field
    obtain ⟨rfl, rfl⟩ := Prod.mk.inj field
    exact .inr ⟨rest, rfl, rfl⟩
  · rw [splitField_whole colon] at field
    obtain ⟨rfl, rfl⟩ := Prod.mk.inj field
    exact .inl ⟨rfl, rfl⟩

theorem gap_of_rest (rest : List Char) :
    ∃ gap, Gap (unspaced rest) gap ∧ ':' :: rest = gap ++ unspaced rest := by
  rcases rest with _ | ⟨c, rest⟩
  · exact ⟨_, .tight nofun, rfl⟩
  · by_cases space : c = ' '
    · subst space
      exact ⟨_, .space, rfl⟩
    · have plain : (c :: rest).head? ≠ some ' ' := by simpa using space
      rw [unspaced_eq_self plain]
      exact ⟨_, .tight plain, rfl⟩

theorem said_field (f : Field) {value gap : List Char} (apart : Gap value gap) :
    said (f.label ++ gap ++ value) = some (f, value) := by
  cases apart with
  | space =>
    rw [List.append_assoc]
    exact said_colon f (' ' :: value)
  | tight plain =>
    rw [List.append_assoc]
    exact (said_colon f value).trans (by rw [unspaced_eq_self plain])

theorem trimEndChars_label (f : Field) : trimEndChars f.label = f.label :=
  dropTail_eq_self (label_without_blank f)

theorem trimEndChars_cons (c : Char) (cs : List Char) : trimEndChars (c :: cs) =
    if trimEndChars cs = [] then trimEndChars [c] else c :: trimEndChars cs :=
  trimEndChars_append [c] cs

theorem unspaced_trimEndChars (rest : List Char) :
    unspaced (trimEndChars rest) = trimEndChars (unspaced rest) := by
  rcases rest with _ | ⟨c, rest⟩
  · rfl
  · by_cases space : c = ' '
    · subst space
      change _ = trimEndChars rest
      rw [trimEndChars_cons]
      split <;> rename_i none_left
      · rw [none_left]
        rfl
      · rfl
    · have plain (cs : List Char) : unspaced (c :: cs) = c :: cs :=
        unspaced_eq_self (by simpa using space)
      rw [plain, trimEndChars_cons]
      split
      · change unspaced (dropTail isBlank ([] ++ [c])) = dropTail isBlank ([] ++ [c])
        rw [Text.dropTail_concat]
        split
        · rfl
        · exact plain []
      · exact plain _

theorem trimEndChars_colon (front rest : List Char) :
    trimEndChars (front ++ ':' :: rest) = front ++ ':' :: trimEndChars rest := by
  have colon : trimEndChars (':' :: rest) = ':' :: trimEndChars rest := by
    rw [trimEndChars_cons]
    split <;> rename_i none_left
    · rw [none_left]
      rfl
    · rfl
  rw [trimEndChars_append, colon, if_neg (List.cons_ne_nil _ _)]

theorem said_trimEndChars {line value : List Char} {f : Field} (h : said line = some (f, value)) :
    said (trimEndChars line) = some (f, trimEndChars value) := by
  rcases line_of_said h with ⟨rfl, rfl⟩ | ⟨rest, rfl, rfl⟩
  · rw [trimEndChars_label]
    exact said_label f
  · rw [trimEndChars_colon, said_colon, unspaced_trimEndChars]

theorem label_of_said_trimEndChars {line value : List Char} {f : Field} (silent : said line = none)
    (h : said (trimEndChars line) = some (f, value)) :
    value = [] ∧
      ∃ blanks, line = f.label ++ blanks ∧ blanks ≠ [] ∧ ∀ c ∈ blanks, isBlank c = true := by
  obtain ⟨blanks, whole, all_blank⟩ := exists_tail isBlank line
  change line = trimEndChars line ++ blanks at whole
  rcases line_of_said h with ⟨label, rfl⟩ | ⟨rest, colon, rfl⟩
  · rw [label] at whole
    refine ⟨rfl, blanks, whole, ?_, all_blank⟩
    rintro rfl
    rw [whole, List.append_nil, said_label] at silent
    cases silent
  · rw [colon, List.append_assoc, List.cons_append] at whole
    rw [whole, said_colon] at silent
    cases silent

theorem said_label_blanks (f : Field) {blanks : List Char} (some_blank : blanks ≠ [])
    (all_blank : ∀ c ∈ blanks, isBlank c = true) : said (f.label ++ blanks) = none := by
  cases spoken : said (f.label ++ blanks) with
  | none => rfl
  | some s =>
    obtain ⟨f', value⟩ := s
    rcases line_of_said spoken with ⟨label, -⟩ | ⟨rest, colon, -⟩
    · obtain ⟨c, hc⟩ := List.exists_mem_of_ne_nil blanks some_blank
      have shown := label_without_blank f' c (label ▸ List.mem_append_right _ hc)
      rw [all_blank c hc] at shown
      cases shown
    · have inside : ':' ∈ f.label ++ blanks := by simp [colon]
      rcases List.mem_append.1 inside with in_label | in_blanks
      · exact absurd in_label (label_without_colon f)
      · exact absurd (all_blank ':' in_blanks) (by decide)

/-- An empty value of the field makes another event of what is open. -/
def Counts (d : Decoder) : Field → Prop
  | .name => d.name ≠ some ""
  | .data => d.data ≠ [] ∨ d.name = none

/-- The blanks at the end of the line count: they belong to the value of a field, or keep the label
of a field from being one. -/
inductive Loses (d : Decoder) : List Char → Prop
  | value (f : Field) {value gap : List Char} (apart : Gap value gap)
      (trimmed : trimEndChars value ≠ value) : Loses d (f.label ++ gap ++ value)
  | label (f : Field) {blanks : List Char} (some_blank : blanks ≠ [])
      (all_blank : ∀ c ∈ blanks, isBlank c = true) (counts : d.Counts f) :
      Loses d (f.label ++ blanks)

theorem intercalate_concat_inj {lines : List String} {a b : String} :
    "\n".intercalate (lines ++ [a]) = "\n".intercalate (lines ++ [b]) ↔ a = b := by
  cases lines with
  | nil => simp
  | cons first rest =>
    rw [String.intercalate_append_of_ne_nil (List.cons_ne_nil _ _) (List.cons_ne_nil _ _),
      String.intercalate_append_of_ne_nil (List.cons_ne_nil _ _) (List.cons_ne_nil _ _),
      String.intercalate_singleton, String.intercalate_singleton, String.append_right_inj]

theorem dispatch_addField_inj (d : Decoder) (f : Field) {v v' : List Char} :
    (d.addField f.label v).dispatch.2 = (d.addField f.label v').dispatch.2 ↔ v = v' := by
  cases f with
  | name =>
    have named (v : List Char) : (d.addField Field.name.label v).dispatch.2 =
        some ⟨some (String.ofList v), "\n".intercalate d.data⟩ := by
      simp [addField, Field.label, dispatch]
    rw [named, named]
    simp [String.ofList_inj]
  | data =>
    have filled (v : List Char) : (d.addField Field.data.label v).dispatch.2 =
        some ⟨d.name, "\n".intercalate (d.data ++ [String.ofList v])⟩ := by
      simp [addField, Field.label, dispatch]
    rw [filled, filled]
    simp [intercalate_concat_inj, String.ofList_inj]

theorem dispatch_addField_nil (d : Decoder) (f : Field) :
    (d.addField f.label []).dispatch.2 = d.dispatch.2 ↔ ¬ d.Counts f := by
  obtain ⟨line, name, data⟩ := d
  cases f with
  | name => cases name <;> cases data <;> simp [addField, Field.label, dispatch, Counts]
  | data =>
    cases data with
    | nil => cases name <;> simp [addField, Field.label, dispatch, Counts]
    | cons first rest =>
      have longer :
          "\n".intercalate (first :: (rest ++ [""])) ≠ "\n".intercalate (first :: rest) := by
        rw [← List.cons_append, String.intercalate_append_of_ne_nil (List.cons_ne_nil _ _)
          (List.cons_ne_nil _ _), String.intercalate_singleton, String.append_empty]
        intro same
        have longer_list := congrArg String.toList same
        rw [String.toList_append] at longer_list
        exact absurd (List.append_right_eq_self.1 longer_list) (by decide)
      simp [addField, Field.label, dispatch, Counts, longer]

theorem loses_of_said {d : Decoder} {line value : List Char} {f : Field}
    (h : said line = some (f, value)) : d.Loses line ↔ trimEndChars value ≠ value := by
  constructor
  · intro loses
    cases loses with
    | value f' apart trimmed =>
      rw [said_field f' apart] at h
      obtain ⟨-, rfl⟩ := Prod.mk.inj (Option.some.inj h)
      exact trimmed
    | label f' some_blank all_blank =>
      rw [said_label_blanks f' some_blank all_blank] at h
      cases h
  · intro trimmed
    rcases line_of_said h with ⟨rfl, rfl⟩ | ⟨rest, rfl, rfl⟩
    · exact absurd rfl trimmed
    · obtain ⟨gap, apart, colon⟩ := gap_of_rest rest
      rw [colon, ← List.append_assoc]
      exact .value f apart trimmed

theorem loses_of_silent {d : Decoder} {line : List Char} (h : said line = none) :
    d.Loses line ↔ ∃ f, said (trimEndChars line) = some (f, []) ∧ d.Counts f := by
  constructor
  · intro loses
    cases loses with
    | value f apart trimmed =>
      rw [said_field f apart] at h
      cases h
    | label f some_blank all_blank counts =>
      refine ⟨f, ?_, counts⟩
      have bare : trimEndChars (f.label ++ _) = f.label :=
        (Text.dropTail_of_all all_blank f.label).trans (trimEndChars_label f)
      rw [bare, said_label]
  · rintro ⟨f, trimmed, counts⟩
    obtain ⟨-, blanks, rfl, some_blank, all_blank⟩ := label_of_said_trimEndChars h trimmed
    exact .label f some_blank all_blank counts

theorem flush_trimEndChars (d : Decoder) (line : List Char) :
    d.flush (trimEndChars line) = d.flush line ↔ ¬ d.Loses line := by
  rw [flush_eq_dispatch, flush_eq_dispatch]
  cases spoken : said line with
  | some s =>
    rw [said_trimEndChars spoken, loses_of_said spoken, not_ne_iff]
    exact d.dispatch_addField_inj s.1
  | none =>
    rw [loses_of_silent spoken]
    cases trimmed : said (trimEndChars line) with
    | none => exact iff_of_true rfl fun ⟨_, said_then, _⟩ => nomatch said_then
    | some s =>
      obtain ⟨f, value⟩ := s
      obtain ⟨rfl, -⟩ := label_of_said_trimEndChars spoken trimmed
      refine (d.dispatch_addField_nil f).trans (not_congr ⟨fun counts => ⟨f, rfl, counts⟩, ?_⟩)
      rintro ⟨f', same, counts⟩
      obtain ⟨rfl, -⟩ := Prod.mk.inj (Option.some.inj same)
      exact counts

/-- What is open inside of an event, without the line that has begun. -/
def betweenLines (d : Decoder) : Decoder := { d with line := [] }

theorem push_betweenLines (d : Decoder) (bs : List UInt8) :
    d.betweenLines.push (d.line ++ bs) = d.push bs := rfl

theorem run_append (d : Decoder) (bs more : List UInt8) :
    d.run (bs ++ more) =
      (d.push bs).2 ++ (d.push bs).1.betweenLines.run ((d.push bs).1.line ++ more) := by
  rw [run, run, push_betweenLines, push_append, List.append_assoc]

theorem push_emptyLine {d : Decoder} (fresh : d.line = []) :
    d.push [lineFeed] = (empty, d.dispatch.2.toList) := by
  have read := @push_line d fresh [] nofun []
  have emptied : (d.readLine (lineText [])).1 = empty := dispatch_fst fresh
  rw [emptied] at read
  exact read.trans (Prod.ext rfl (List.append_nil _))

theorem run_ended {d : Decoder} (fresh : d.line = []) {bs : List UInt8} (h : noFeed bs) :
    d.run (bs ++ [lineFeed, lineFeed]) = (d.flush (lineText bs)).toList := by
  have kept := (line_readLine d (lineText bs)).trans fresh
  have none_left : empty.finish.2.toList = [] := rfl
  rw [run, push_line fresh h, push_emptyLine kept, none_left, List.append_nil, flush]
  rcases read : d.readLine (lineText bs) with ⟨d', _ | event⟩
  · rfl
  · have emptied := readLine_fst_of_some fresh (congrArg Prod.snd read)
    rw [read] at emptied
    obtain rfl : d' = empty := emptied
    rfl

theorem isBlank_of_isLineEnd (c : Char) (h : isLineEnd c = true) : isBlank c = true := by
  rw [isLineEnd, Bool.or_eq_true, beq_iff_eq, beq_iff_eq] at h
  rcases h with rfl | rfl <;> decide

/-- A decoder between two bodies or within one reads the end of a body with the blanks at its end
dropped, and completed line ends with the blanks kept. -/
theorem run_unended {d : Decoder} (reached : Reached d) (bs : List UInt8) :
    let line := lineText (d.push bs).1.line
    let opened := (d.push bs).1.betweenLines
    d.run bs = (d.push bs).2 ++ (opened.flush (trimEndChars line)).toList ∧
      d.run (bs ++ [lineFeed, lineFeed]) = (d.push bs).2 ++ (opened.flush line).toList := by
  intro line opened
  have begun : noFeed (d.push bs).1.line := (reached.push bs).noFeed
  have trimmed : trimEndChars line = trimEndChars (decodeLossy (d.push bs).1.line) :=
    Text.dropTail_dropTail isBlank_of_isLineEnd _
  constructor
  · have whole := d.run_append bs []
    rw [List.append_nil, List.append_nil] at whole
    rw [whole, run_part rfl begun, trimmed]
  · rw [run_append, run_ended rfl begun]

end Decoder

/-- What a body has begun and not completed, without the line it ends inside of. -/
def leftOpen (bs : List UInt8) : Decoder := (Decoder.empty.push bs).1.betweenLines

def lastLine (bs : List UInt8) : List Char := Decoder.lineText (Decoder.empty.push bs).1.line

/-- At the end of a body a last line without its end is read without the blanks at its end, and with
the missing line ends it would have been read with them. The two are the same exactly if those
blanks belong to no value and to no label. -/
theorem decodeBody_unended (bs : List UInt8) :
    decodeBody bs =
        decodeBroken bs ++ ((leftOpen bs).flush (Text.trimEndChars (lastLine bs))).toList ∧
      decodeBody (bs ++ [lineFeed, lineFeed]) =
        decodeBroken bs ++ ((leftOpen bs).flush (lastLine bs)).toList ∧
      (decodeBody bs = decodeBody (bs ++ [lineFeed, lineFeed]) ↔
        ¬ (leftOpen bs).Loses (lastLine bs)) := by
  obtain ⟨unended, ended⟩ := Decoder.run_unended .empty bs
  refine ⟨unended, ended, ?_⟩
  rw [← Decoder.run_empty, ← Decoder.run_empty, unended, ended, List.append_cancel_left_eq,
    ← Decoder.flush_trimEndChars]
  exact (Function.LeftInverse.injective fun _ => Option.head?_toList).eq_iff

/-- The blank at the end of unfinished data is lost. -/
theorem last_blank_is_lost :
    let bs := Text.Utf8.encode "data: a "
    decodeBody bs = [⟨none, "a"⟩] ∧ decodeBody (bs ++ [lineFeed, lineFeed]) = [⟨none, "a "⟩] ∧
      ¬ ∀ bs, decodeBody bs = decodeBody (bs ++ [lineFeed, lineFeed]) := by
  intro bs
  have unended : decodeBody bs = [⟨none, "a"⟩] := by decide
  have ended : decodeBody (bs ++ [lineFeed, lineFeed]) = [⟨none, "a "⟩] := by decide
  refine ⟨unended, ended, fun same => ?_⟩
  have both := same bs
  rw [unended, ended] at both
  exact absurd both (by decide)

end ChatAgents.Http
