import ChatAgents.Proofs.WrittenReports
import Mathlib.Algebra.GroupWithZero.Nat
set_option autoImplicit false

namespace ChatAgents

def MadeOf (text : String) (lines : List String) : Prop :=
  text.toList.splitOn '\n' = lines.map String.toList ++ [[]]

theorem MadeOf.unique {text : String} {lines lines' : List String} (h : MadeOf text lines)
    (h' : MadeOf text lines') : lines = lines' := by
  have same : lines.map String.toList = lines'.map String.toList :=
    List.append_cancel_right (h.symm.trans h')
  exact (List.map_inj_right fun _ _ => String.toList_inj.1).1 same

theorem length_splitOn (cs : List Char) : (cs.splitOn '\n').length = cs.count '\n' + 1 := by
  induction cs with
  | nil => rfl
  | cons c cs ih =>
    rw [List.splitOn_cons_eq_if_modifyHead, List.count_cons]
    split
    · simp [ih]
    · simp [ih]

def CitationSource.fields : CitationSource → List String
  | .url address title => title.toList ++ [address]
  | .file id quote => id :: quote.toList

def Citation.fields (c : Citation) : List String := c.text.toList ++ c.source.fields

namespace Citation

/-- How often what a citation shows breaks its line. -/
def breaks (c : Citation) : Nat := (c.fields.map fun field => field.toList.count '\n').sum

def lines (c : Citation) : List String := (c.display.toList.splitOn '\n').map String.ofList

theorem count_display (c : Citation) : c.display.toList.count '\n' = c.breaks := by
  obtain ⟨text, source⟩ := c
  have shown : source.display.toList.count '\n' =
      (source.fields.map fun field => field.toList.count '\n').sum := by
    cases source with
    | url address title => cases title <;> simp [CitationSource.display, CitationSource.fields]
    | file id quote => cases quote <;> simp [CitationSource.display, CitationSource.fields]
  cases text <;> simp [display, breaks, fields, shown]

theorem length_lines (c : Citation) : c.lines.length = 1 + c.breaks := by
  rw [lines, List.length_map, length_splitOn, count_display, Nat.add_comm]

theorem breaks_eq_zero_iff (c : Citation) :
    c.breaks = 0 ↔ ∀ field ∈ c.fields, '\n' ∉ field.toList := by
  simp [breaks, List.sum_eq_zero_iff_forall_eq_nat, List.count_eq_zero]

theorem lines_of_unbroken {c : Citation} (h : c.breaks = 0) : c.lines = [c.display] := by
  have unbroken : '\n' ∉ c.display.toList := by
    rw [← List.count_eq_zero, count_display, h]
  rw [lines, List.splitOn_eq_singleton unbroken]
  simp

end Citation

namespace Report

theorem madeOf_citationLines (citations : List Citation) :
    MadeOf (citationLines citations) (citations.flatMap Citation.lines) := by
  induction citations with
  | nil => rfl
  | cons c rest ih =>
    have text : (citationLines (c :: rest)).toList =
        c.display.toList ++ '\n' :: (citationLines rest).toList := by
      simp [citationLines]
    have shown : c.lines.map String.toList = c.display.toList.splitOn '\n' := by
      simp [Citation.lines, Function.comp_def]
    rw [MadeOf, text, List.splitOn_append_cons_self, ih, List.flatMap_cons, List.map_append, shown,
      List.append_assoc]

theorem length_flatMap_lines (citations : List Citation) :
    (citations.flatMap Citation.lines).length =
      citations.length + (citations.map Citation.breaks).sum := by
  induction citations with
  | nil => rfl
  | cons c rest ih =>
    rw [List.flatMap_cons, List.length_append, ih, Citation.length_lines, List.map_cons,
      List.sum_cons, List.length_cons]
    omega

theorem flatMap_lines_eq_iff (citations : List Citation) :
    citations.flatMap Citation.lines = citations.map Citation.display ↔
      ∀ c ∈ citations, c.breaks = 0 := by
  constructor
  · intro one_each
    have length := length_flatMap_lines citations
    rw [one_each, List.length_map] at length
    have none_left : (citations.map Citation.breaks).sum = 0 := by omega
    simpa [List.sum_eq_zero_iff_forall_eq_nat] using none_left
  · intro unbroken
    rw [List.map_eq_flatMap, List.flatMap_def, List.flatMap_def,
      List.map_congr_left fun c member => Citation.lines_of_unbroken (unbroken c member)]

/-- Behind the text of a response and a line end, the bytes show one line for each citation. -/
def OneLineEach (r : AgentResponse) (printed : List UInt8) : Prop :=
  ∃ list : String, printed = Text.Utf8.encode (r.text ++ "\n" ++ list) ∧
    MadeOf list (r.citations.map Citation.display)

theorem oneLineEach_page_iff (r : AgentResponse) :
    OneLineEach r (Text.Utf8.encode (page r)) ↔ ∀ c ∈ r.citations, c.breaks = 0 := by
  rw [← flatMap_lines_eq_iff]
  constructor
  · rintro ⟨list, printed, one_each⟩
    obtain rfl : citationLines r.citations = list :=
      (String.append_right_inj _).1 (Text.Utf8.encode_inj printed)
    exact (madeOf_citationLines r.citations).unique one_each
  · intro one_each
    exact ⟨citationLines r.citations, rfl, one_each ▸ madeOf_citationLines r.citations⟩

/-- Behind its text and a line end, a response comes out as the lines of its citations in their
order, written in one go or as a stream. A citation has one line and one more for every line feed in
its fields, so there is one line for each citation, and it shows that citation, exactly if no field
holds a line feed. -/
theorem citations_take_their_lines (r : AgentResponse) (s : Sink) (takes : s.Takes (page r) 0) :
    ∃ list : String,
      let printed := Text.Utf8.encode (r.text ++ "\n" ++ list)
      (writeResponse r s).2.written = s.written ++ printed ∧
      (∀ (σ : Type) (p : Progress Update σ AgentError Unit), collect p = .ok r →
        s.Takes (streamed p) (flushes p.items) →
          (writeStream p s).2.1.written = s.written ++ printed) ∧
      MadeOf list (r.citations.flatMap Citation.lines) ∧
      (∀ c ∈ r.citations, c.lines.length =
        1 + (c.fields.map fun field => field.toList.count '\n').sum) ∧
      (OneLineEach r printed ↔ ∀ c ∈ r.citations, ∀ field ∈ c.fields, '\n' ∉ field.toList) := by
  refine ⟨citationLines r.citations, ?_, ?_, madeOf_citationLines r.citations, ?_, ?_⟩
  · rw [prints_writeResponse r s takes]
    rfl
  · intro σ p collected takes
    rw [writeStream_run takes, streamed_of_ok collected]
    rfl
  · intro c _
    exact c.length_lines
  · simp only [← Citation.breaks_eq_zero_iff]
    exact oneLineEach_page_iff r

def sourced : AgentResponse :=
  ⟨"Answer", [⟨some "[1]", .url "u" (some "Title")⟩, ⟨none, .file "f" (some "first")⟩], none⟩

theorem sources_stand_line_by_line :
    Sink.unbounded.Takes (page sourced) 0 ∧
      OneLineEach sourced (writeResponse sourced .unbounded).2.written := by
  have takes : Sink.unbounded.Takes (page sourced) 0 := ⟨nofun, nofun⟩
  obtain ⟨list, written, -, -, -, one_each⟩ := citations_take_their_lines sourced .unbounded takes
  refine ⟨takes, ?_⟩
  rw [written]
  exact one_each.2 (by decide)

def excerpt : AgentResponse := ⟨"Answer", [⟨none, .file "f" (some "first\nsecond")⟩], none⟩

theorem excerpt_takes_two_lines :
    (writeResponse excerpt .unbounded).2.written =
        Text.Utf8.encode "Answer\nfile f: \"first\nsecond\"\n" ∧
      ¬ OneLineEach excerpt (writeResponse excerpt .unbounded).2.written := by
  have written : (writeResponse excerpt .unbounded).2.written = Text.Utf8.encode (page excerpt) := by
    rw [prints_writeResponse excerpt .unbounded ⟨nofun, nofun⟩]
    rfl
  have shown : page excerpt = "Answer\nfile f: \"first\nsecond\"\n" := by decide
  refine ⟨written.trans (congrArg _ shown), ?_⟩
  rw [written, oneLineEach_page_iff]
  decide

end Report
end ChatAgents
