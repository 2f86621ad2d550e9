import ChatAgents.Proofs.Accumulation
import ChatAgents.Proofs.Documents
import Mathlib.Algebra.GroupWithZero.Nat
import Mathlib.Data.Nat.Find
set_option autoImplicit false

namespace ChatAgents

/-- A total of reports, in each field as far as a word holds it; without a report there is none. -/
structure Usage.IsTotal (reports : List Usage) (total : Option Usage) : Prop where
  isNone : total = none ↔ reports = []
  input : ∀ u, total = some u →
    u.input.toNat = min (reports.map (·.input.toNat)).sum (UInt32.size - 1)
  output : ∀ u, total = some u →
    u.output.toNat = min (reports.map (·.output.toNat)).sum (UInt32.size - 1)

namespace Usage

def join (total : Option Usage) : Option Usage → Option Usage
  | some u => addTo total u
  | none => total

theorem add_capped (field : Usage → UInt32) {a b : Usage} {m n : Nat}
    (adds : field (a.add b) = addSaturating (field a) (field b))
    (left : (field a).toNat = min m (UInt32.size - 1))
    (right : (field b).toNat = min n (UInt32.size - 1)) :
    (field (a.add b)).toNat = min (m + n) (UInt32.size - 1) := by
  rw [adds, toNat_addSaturating, left, right]
  omega

namespace IsTotal

variable {us vs : List Usage} {t t' : Option Usage} {u v : Usage}

theorem nothing : IsTotal [] none := ⟨by simp, nofun, nofun⟩

theorem single (u : Usage) : IsTotal [u] (some u) where
  isNone := by simp
  input := by
    rintro _ ⟨⟩
    rw [List.map_singleton, List.sum_singleton]
    exact (Nat.min_eq_left (Nat.le_pred_of_lt u.input.toNat_lt)).symm
  output := by
    rintro _ ⟨⟩
    rw [List.map_singleton, List.sum_singleton]
    exact (Nat.min_eq_left (Nat.le_pred_of_lt u.output.toNat_lt)).symm

theorem toList (t : Option Usage) : IsTotal t.toList t := by
  cases t with
  | none => exact nothing
  | some u => exact single u

theorem add (left : IsTotal us (some u)) (right : IsTotal vs (some v)) :
    IsTotal (us ++ vs) (some (u.add v)) where
  isNone := by
    have some_report : us ≠ [] := mt left.isNone.2 nofun
    simp [some_report]
  input := by
    rintro _ ⟨⟩
    rw [List.map_append, List.sum_append]
    exact add_capped Usage.input rfl (left.input u rfl) (right.input v rfl)
  output := by
    rintro _ ⟨⟩
    rw [List.map_append, List.sum_append]
    exact add_capped Usage.output rfl (left.output u rfl) (right.output v rfl)

theorem join (left : IsTotal us t) (right : IsTotal vs t') : IsTotal (us ++ vs) (join t t') := by
  cases t' with
  | none =>
    obtain rfl := right.isNone.1 rfl
    rwa [List.append_nil]
  | some v =>
    cases t with
    | none =>
      obtain rfl := left.isNone.1 rfl
      rwa [List.nil_append, Usage.join, addTo_none]
    | some u => exact left.add right

theorem foldl (before : IsTotal us t) (reports : List Usage) :
    IsTotal (us ++ reports) (reports.foldl addTo t) := by
  induction reports generalizing us t with
  | nil => rwa [List.append_nil]
  | cons r rest ih =>
    rw [List.append_cons]
    exact ih (before.join (single r))

end IsTotal

theorem isTotal_foldl (reports : List Usage) : IsTotal reports (reports.foldl addTo none) :=
  IsTotal.nothing.foldl reports

end Usage

namespace PartialCall

def gather (fs : List CallFragment) : PartialCall :=
  ⟨(fs.filterMap (·.id)).getLast?.getD "", String.join (fs.filterMap (·.name)),
    String.join (fs.map (·.arguments))⟩

/-- Arguments that are neither blank nor a document. -/
def Unreadable (c : PartialCall) : Prop :=
  Text.isBlankText c.arguments = false ∧ Json.parse? c.arguments = none

def read (c : PartialCall) : ToolCall := ⟨c.id, c.name, (Json.parse? c.arguments).getD .empty⟩

def fault (c : PartialCall) : RemoteError :=
  .response ("tool call arguments for '" ++ c.name ++ "' are not valid JSON: " ++ malformedJson)

variable {c : PartialCall}

theorem finish_of_readable (h : ¬ c.Unreadable) : c.finish = .ok c.read := by
  rw [finish, parseArguments]
  by_cases blank : Text.isBlankText c.arguments = true
  · have no_document : Json.parse? c.arguments = none := by
      cases document : Json.parse? c.arguments with
      | none => rfl
      | some v =>
        have := Json.not_isBlankText_of_parse? document
        rw [blank] at this
        cases this
    rw [if_pos blank, read, no_document]
    rfl
  · rw [if_neg blank, read]
    cases document : Json.parse? c.arguments with
    | some v => rfl
    | none => exact absurd ⟨Bool.eq_false_iff.2 blank, document⟩ h

theorem finish_of_unreadable (h : c.Unreadable) : c.finish = .error c.fault := by
  obtain ⟨blank, document⟩ := h
  rw [finish, parseArguments, blank, document]
  rfl

end PartialCall

theorem laneOf_eq_gather {fs : List CallFragment} (h : fs ≠ []) :
    laneOf fs = some (.gather fs) := by
  rw [laneOf, if_neg h, PartialCall.extendAll_eq]
  simp [PartialCall.empty, PartialCall.gather]

theorem fragments_ne_nil_iff (i : Nat) (chunks : List Chunk) :
    fragments i chunks ≠ [] ↔ ∃ id name arguments, Chunk.call i id name arguments ∈ chunks := by
  constructor
  · intro some_fragment
    obtain ⟨f, member⟩ := List.exists_mem_of_ne_nil _ some_fragment
    obtain ⟨c, member, found⟩ := List.mem_filterMap.1 member
    cases c with
    | call j id name arguments =>
      rw [Chunk.fragment?] at found
      split at found
      · next same => exact ⟨id, name, arguments, same ▸ member⟩
      · cases found
    | text _ | citation _ | usage _ => cases found
  · rintro ⟨id, name, arguments, member⟩
    exact List.ne_nil_of_mem (List.mem_filterMap.2 ⟨_, member, if_pos rfl⟩)

namespace Accumulator

def indices (chunks : List Chunk) : List Nat := (empty.pushAll chunks).calls.map Prod.fst

variable (chunks : List Chunk)

theorem indices_increasing : (indices chunks).Pairwise (· < ·) :=
  List.pairwise_map.2 (indexed_pushAll indexed_empty chunks)

theorem mem_indices (i : Nat) :
    i ∈ indices chunks ↔ ∃ id name arguments, Chunk.call i id name arguments ∈ chunks := by
  have found := lookup_pushAll_empty chunks i
  rw [← fragments_ne_nil_iff]
  constructor
  · intro member no_fragment
    obtain ⟨x, entry, rfl⟩ := List.mem_map.1 member
    rw [(indexed_pushAll indexed_empty chunks).lookup_of_mem entry, no_fragment] at found
    cases found
  · intro some_fragment
    rw [laneOf_eq_gather some_fragment] at found
    obtain ⟨before, after, split, -⟩ := List.lookup_eq_some_iff.1 found
    rw [indices, split, List.map_append, List.map_cons]
    exact List.mem_append_right _ List.mem_cons_self

theorem calls_pushAll_empty :
    (empty.pushAll chunks).calls =
      (indices chunks).map fun i => (i, PartialCall.gather (fragments i chunks)) := by
  have sorted := indexed_pushAll indexed_empty chunks
  rw [indices, List.map_map]
  refine (List.map_id _).symm.trans (List.map_congr_left fun x member => ?_)
  have found := lookup_pushAll_empty chunks x.1
  rw [sorted.lookup_of_mem member] at found
  by_cases no_fragment : fragments x.1 chunks = []
  · rw [no_fragment] at found
    cases found
  · rw [laneOf_eq_gather no_fragment] at found
    exact Prod.ext rfl (Option.some.inj found)

end Accumulator

section Traversals

variable {ε α β : Type} {f : α → Except ε β}

theorem mapM_eq_map {g : α → β} {l : List α} (h : ∀ x ∈ l, f x = .ok (g x)) :
    l.mapM f = .ok (l.map g) := by
  induction l with
  | nil => rfl
  | cons x rest ih =>
    rw [List.mapM_cons, h x List.mem_cons_self, ih fun y hy => h y (List.mem_cons_of_mem x hy)]
    rfl

theorem mapM_eq_error_of_first {before after : List α} {x : α} {e : ε}
    (served : ∀ y ∈ before, ∃ v, f y = .ok v) (fails : f x = .error e) :
    (before ++ x :: after).mapM f = .error e := by
  induction before with
  | nil =>
    rw [List.nil_append, List.mapM_cons, fails]
    rfl
  | cons y rest ih =>
    obtain ⟨v, ok⟩ := served y List.mem_cons_self
    rw [List.cons_append, List.mapM_cons, ok, ih fun z hz => served z (List.mem_cons_of_mem y hz)]
    rfl

end Traversals

/-- Chunks that put the same into every lane, however they are interleaved and cut. -/
structure SameLanes (chunks chunks' : List Chunk) : Prop where
  text : String.join (chunks'.filterMap Chunk.text?) = String.join (chunks.filterMap Chunk.text?)
  citations : chunks'.filterMap Chunk.citation? = chunks.filterMap Chunk.citation?
  usage : chunks'.filterMap Chunk.usage? = chunks.filterMap Chunk.usage?
  occurs : ∀ i, fragments i chunks' = [] ↔ fragments i chunks = []
  call : ∀ i, PartialCall.gather (fragments i chunks') = PartialCall.gather (fragments i chunks)

theorem SameLanes.lane {chunks chunks' : List Chunk} (h : SameLanes chunks chunks') (i : Nat) :
    laneOf (fragments i chunks') = laneOf (fragments i chunks) := by
  by_cases empty : fragments i chunks = []
  · rw [empty, (h.occurs i).2 empty]
  · rw [laneOf_eq_gather empty, laneOf_eq_gather (mt (h.occurs i).1 empty), h.call]

namespace Completion

open Accumulator

theorem ofChunks_lanes (chunks : List Chunk) :
    ofChunks chunks =
      ((indices chunks).mapM fun i => (PartialCall.gather (fragments i chunks)).finish).map
        fun calls =>
          ⟨if String.join (chunks.filterMap Chunk.text?) = "" then none
            else some (String.join (chunks.filterMap Chunk.text?)),
            calls, chunks.filterMap Chunk.citation?,
            (chunks.filterMap Chunk.usage?).foldl Usage.addTo none⟩ := by
  rw [ofChunks, finish, calls_pushAll_empty, List.mapM_map, text_pushAll, citations_pushAll,
    usage_pushAll]
  simp [Accumulator.empty, Function.comp_def]

theorem ofChunks_of_sameLanes {chunks chunks' : List Chunk} (h : SameLanes chunks chunks') :
    ofChunks chunks' = ofChunks chunks := by
  have calls : (Accumulator.empty.pushAll chunks').calls = (Accumulator.empty.pushAll chunks).calls := by
    refine (indexed_pushAll indexed_empty chunks').ext (indexed_pushAll indexed_empty chunks) ?_
    intro i
    rw [lookup_pushAll_empty, lookup_pushAll_empty, h.lane]
  rw [ofChunks, ofChunks, finish, finish, calls, text_pushAll, text_pushAll, citations_pushAll,
    citations_pushAll, usage_pushAll, usage_pushAll, h.text, h.citations, h.usage]

theorem ofChunks_of_readable {chunks : List Chunk}
    (readable : ∀ i ∈ indices chunks, ¬ (PartialCall.gather (fragments i chunks)).Unreadable) :
    ofChunks chunks =
      .ok ⟨if String.join (chunks.filterMap Chunk.text?) = "" then none
        else some (String.join (chunks.filterMap Chunk.text?)),
        (indices chunks).map fun i => (PartialCall.gather (fragments i chunks)).read,
        chunks.filterMap Chunk.citation?, (chunks.filterMap Chunk.usage?).foldl Usage.addTo none⟩ := by
  rw [ofChunks_lanes, mapM_eq_map fun i member => PartialCall.finish_of_readable (readable i member)]
  rfl

theorem ofChunks_of_unreadable {chunks : List Chunk} {i : Nat} (member : i ∈ indices chunks)
    (unreadable : (PartialCall.gather (fragments i chunks)).Unreadable)
    (first : ∀ j ∈ indices chunks, j < i →
      ¬ (PartialCall.gather (fragments j chunks)).Unreadable) :
    ofChunks chunks = .error (PartialCall.gather (fragments i chunks)).fault := by
  obtain ⟨before, after, split⟩ := List.append_of_mem member
  have increasing := indices_increasing chunks
  rw [split] at increasing first
  have served : ∀ j ∈ before, ∃ v, (PartialCall.gather (fragments j chunks)).finish = .ok v := by
    intro j hj
    have lt : j < i := (List.pairwise_append.1 increasing).2.2 j hj i List.mem_cons_self
    exact ⟨_, PartialCall.finish_of_readable (first j (List.mem_append_left _ hj) lt)⟩
  rw [ofChunks_lanes, split,
    mapM_eq_error_of_first served (PartialCall.finish_of_unreadable unreadable)]
  rfl

theorem ofChunks_fails_iff (chunks : List Chunk) :
    (∃ e, ofChunks chunks = .error e) ↔
      ∃ i ∈ indices chunks, (PartialCall.gather (fragments i chunks)).Unreadable := by
  classical
  constructor
  · rintro ⟨e, failed⟩
    by_contra all_readable
    rw [ofChunks_of_readable fun i member here => all_readable ⟨i, member, here⟩] at failed
    cases failed
  · intro unreadable
    obtain ⟨member, here⟩ := Nat.find_spec unreadable
    refine ⟨_, ofChunks_of_unreadable member here fun j hj lt there => ?_⟩
    exact Nat.find_min unreadable lt ⟨hj, there⟩

end Completion

/-- An answer is the fold of its lanes: all text, the calls in the order of their indices, the
citations and the total of the reports. It fails at the first call whose arguments are neither blank
nor a document, and depends on nothing but what the chunks put into each lane. -/
theorem Completion.ofChunks_by_lanes (chunks : List Chunk) :
    let lane := fun i => PartialCall.gather (fragments i chunks)
    let text := String.join (chunks.filterMap Chunk.text?)
    ∃ indices : List Nat, indices.Pairwise (· < ·) ∧
      (∀ i, i ∈ indices ↔ ∃ id name arguments, Chunk.call i id name arguments ∈ chunks) ∧
      ((∀ i ∈ indices, ¬ (lane i).Unreadable) →
        ∃ usage, Usage.IsTotal (chunks.filterMap Chunk.usage?) usage ∧
          ofChunks chunks = .ok ⟨if text = "" then none else some text,
            indices.map fun i => (lane i).read, chunks.filterMap Chunk.citation?, usage⟩) ∧
      (∀ i ∈ indices, (lane i).Unreadable → (∀ j ∈ indices, j < i → ¬ (lane j).Unreadable) →
        ofChunks chunks = .error (lane i).fault) ∧
      ((∃ e, ofChunks chunks = .error e) ↔ ∃ i ∈ indices, (lane i).Unreadable) ∧
      ∀ chunks', SameLanes chunks chunks' → ofChunks chunks' = ofChunks chunks := by
  intro lane text
  refine ⟨Accumulator.indices chunks, Accumulator.indices_increasing chunks,
    Accumulator.mem_indices chunks, ?_, ?_, ofChunks_fails_iff chunks, ?_⟩
  · intro readable
    exact ⟨_, Usage.isTotal_foldl _, ofChunks_of_readable readable⟩
  · intro i member unreadable first
    exact ofChunks_of_unreadable member unreadable first
  · intro chunks' same
    exact ofChunks_of_sameLanes same

end ChatAgents
