import ChatAgents.Agent.Basic
set_option autoImplicit false

namespace ChatAgents

section Results

variable {ε α β : Type}

theorem bind_eq_ok_iff {x : Except ε α} {f : α → Except ε β} {b : β} :
    x >>= f = .ok b ↔ ∃ a, x = .ok a ∧ f a = .ok b := by
  constructor
  · intro h
    cases x with
    | error e => cases h
    | ok a => exact ⟨a, rfl, h⟩
  · rintro ⟨a, rfl, h⟩
    exact h

theorem map_eq_ok_iff {x : Except ε α} {f : α → β} {b : β} :
    x.map f = .ok b ↔ ∃ a, x = .ok a ∧ f a = b := by
  cases x <;> simp [Except.map]

theorem ok_of_mapM_cons {f : α → Except ε β} {x : α} {l : List α} {ys : List β}
    (h : (x :: l).mapM f = .ok ys) : ∃ y rest, f x = .ok y ∧ l.mapM f = .ok rest ∧ ys = y :: rest := by
  rw [List.mapM_cons] at h
  obtain ⟨y, first, h⟩ := bind_eq_ok_iff.1 h
  obtain ⟨rest, later, h⟩ := bind_eq_ok_iff.1 h
  exact ⟨y, rest, first, later, (Except.ok.inj h).symm⟩

end Results

def Indexed {α : Type} (entries : List (Nat × α)) : Prop := entries.Pairwise fun x y => x.1 < y.1

theorem lookup_cons_entry {α : Type} (i j : Nat) (a : α) (rest : List (Nat × α)) :
    ((j, a) :: rest).lookup i = if i = j then some a else rest.lookup i := by
  rw [List.lookup_cons]
  by_cases h : i = j
  · simp [h]
  · simp only [h, if_false]
    rw [beq_eq_false_iff_ne.2 h]

theorem lookup_eq_none_of_lt {α : Type} {entries : List (Nat × α)} {i : Nat}
    (h : ∀ x ∈ entries, i < x.1) : entries.lookup i = none := by
  rw [List.lookup_eq_none_iff]
  intro x hx
  have := h x hx
  simp
  omega

theorem Indexed.lookup_before {α : Type} {x : Nat × α} {xs : List (Nat × α)} {i : Nat}
    (h : Indexed (x :: xs)) (lt : i < x.1) : (x :: xs).lookup i = none := by
  apply lookup_eq_none_of_lt
  intro z hz
  rcases List.mem_cons.1 hz with rfl | hz
  · exact lt
  · exact Nat.lt_trans lt ((List.pairwise_cons.1 h).1 z hz)

theorem Indexed.lookup_of_mem {α : Type} {entries : List (Nat × α)} (h : Indexed entries)
    {x : Nat × α} (member : x ∈ entries) : entries.lookup x.1 = some x.2 := by
  obtain ⟨before, after, rfl⟩ := List.append_of_mem member
  refine List.lookup_eq_some_iff.2 ⟨before, after, rfl, fun y hy => ?_⟩
  have lt : y.1 < x.1 := (List.pairwise_append.1 h).2.2 y hy x List.mem_cons_self
  rw [bne_iff_ne]
  omega

theorem Indexed.ext {α : Type} {xs ys : List (Nat × α)} (hx : Indexed xs) (hy : Indexed ys)
    (same : ∀ i, xs.lookup i = ys.lookup i) : xs = ys := by
  induction xs generalizing ys with
  | nil =>
    cases ys with
    | nil => rfl
    | cons y ys =>
      have h := same y.1
      rw [lookup_cons_entry] at h
      simp at h
  | cons x xs ih =>
    cases ys with
    | nil =>
      have h := same x.1
      rw [lookup_cons_entry] at h
      simp at h
    | cons y ys =>
      obtain ⟨i, a⟩ := x
      obtain ⟨j, b⟩ := y
      -- the list whose first index is the smaller one has an entry that the other lacks
      have first : i = j := by
        rcases Nat.lt_trichotomy i j with lt | eq | gt
        · have h := same i
          rw [hy.lookup_before lt, lookup_cons_entry] at h
          simp at h
        · exact eq
        · have h := same j
          rw [hx.lookup_before gt, lookup_cons_entry] at h
          simp at h
      subst first
      have value := same i
      simp only [List.lookup_cons_self, Option.some.injEq] at value
      subst value
      obtain ⟨hx₁, hx₂⟩ := List.pairwise_cons.1 hx
      obtain ⟨hy₁, hy₂⟩ := List.pairwise_cons.1 hy
      congr 1
      apply ih hx₂ hy₂
      intro k
      by_cases hk : k = i
      · subst hk
        rw [lookup_eq_none_of_lt hx₁, lookup_eq_none_of_lt hy₁]
      · simpa only [lookup_cons_entry, hk, if_false] using same k

theorem mem_updateCall {index : Nat} {change : PartialCall → PartialCall}
    {calls : List (Nat × PartialCall)} {x : Nat × PartialCall}
    (h : x ∈ updateCall index change calls) : x.1 = index ∨ ∃ y ∈ calls, y.1 = x.1 := by
  induction calls with
  | nil =>
    simp only [updateCall, List.mem_singleton] at h
    exact .inl (by rw [h])
  | cons y rest ih =>
    obtain ⟨i, c⟩ := y
    simp only [updateCall] at h
    split at h
    · rcases List.mem_cons.1 h with rfl | h
      · exact .inl rfl
      · exact .inr ⟨x, h, rfl⟩
    · split at h
      · rcases List.mem_cons.1 h with rfl | h
        · exact .inr ⟨_, List.mem_cons_self, rfl⟩
        · obtain eq | ⟨y, hy, eq⟩ := ih h
          · exact .inl eq
          · exact .inr ⟨y, List.mem_cons_of_mem _ hy, eq⟩
      · rcases List.mem_cons.1 h with rfl | h
        · exact .inr ⟨_, List.mem_cons_self, rfl⟩
        · exact .inr ⟨x, List.mem_cons_of_mem _ h, rfl⟩

theorem indexed_updateCall {calls : List (Nat × PartialCall)} (h : Indexed calls) (index : Nat)
    (change : PartialCall → PartialCall) : Indexed (updateCall index change calls) := by
  induction calls with
  | nil => exact List.pairwise_singleton _ _
  | cons y rest ih =>
    obtain ⟨i, c⟩ := y
    obtain ⟨first, later⟩ := List.pairwise_cons.1 h
    simp only [updateCall]
    split
    · next lt =>
      refine List.pairwise_cons.2 ⟨?_, h⟩
      intro z hz
      rcases List.mem_cons.1 hz with rfl | hz
      · exact lt
      · exact Nat.lt_trans lt (first z hz)
    · split
      · next lt =>
        refine List.pairwise_cons.2 ⟨?_, ih later⟩
        intro z hz
        obtain eq | ⟨y, hy, eq⟩ := mem_updateCall hz
        · exact eq ▸ lt
        · exact eq ▸ first y hy
      · exact List.pairwise_cons.2 ⟨first, later⟩

theorem lookup_updateCall {calls : List (Nat × PartialCall)} (h : Indexed calls) (index : Nat)
    (change : PartialCall → PartialCall) (i : Nat) :
    (updateCall index change calls).lookup i =
      if i = index then some (change ((calls.lookup index).getD .empty)) else calls.lookup i := by
  induction calls with
  | nil => simp [updateCall, lookup_cons_entry]
  | cons y rest ih =>
    obtain ⟨j, c⟩ := y
    obtain ⟨first, later⟩ := List.pairwise_cons.1 h
    simp only [updateCall]
    split
    · next lt => rw [lookup_cons_entry, h.lookup_before lt]; rfl
    · split
      · next lt =>
        have ne : index ≠ j := by omega
        simp only [lookup_cons_entry, ih later, ne, if_false]
        by_cases hj : i = j
        · simp [hj, ne.symm]
        · simp [hj]
      · obtain rfl : j = index := by omega
        by_cases hi : i = j <;> simp [lookup_cons_entry, hi]

theorem addSaturating_zero_left (n : UInt32) : addSaturating 0 n = n := by
  apply UInt32.toNat_inj.1
  have := n.toNat_lt
  rw [toNat_addSaturating, UInt32.toNat_zero, UInt32.size]
  omega

theorem Usage.addTo_none (u : Usage) : Usage.addTo none u = some u := by
  simp [Usage.addTo, Usage.zero, Usage.add, addSaturating_zero_left]

structure CallFragment where
  id : Option String
  name : Option String
  arguments : String
deriving DecidableEq

namespace Chunk

def text? : Chunk → Option String
  | .text s => some s
  | _ => none

def citation? : Chunk → Option Citation
  | .citation c => some c
  | _ => none

def usage? : Chunk → Option Usage
  | .usage u => some u
  | _ => none

def fragment? (index : Nat) : Chunk → Option CallFragment
  | .call i id name arguments => if i = index then some ⟨id, name, arguments⟩ else none
  | _ => none

end Chunk

theorem filterMap_textChunks {α : Type} (f : Chunk → Option α) (text : Option String) :
    (textChunks text).filterMap f = ((text.filter (· ≠ "")).bind fun s => f (.text s)).toList := by
  cases text with
  | none => rfl
  | some s =>
    by_cases h : s = ""
    · simp [textChunks, h, Option.filter]
    · cases hf : f (.text s) <;> simp [textChunks, h, hf, Option.filter]

theorem filterMap_usageChunks {α : Type} (f : Chunk → Option α) (usage : Option Usage) :
    (usageChunks usage).filterMap f = (usage.bind fun u => f (.usage u)).toList := by
  cases usage with
  | none => rfl
  | some u => cases hf : f (.usage u) <;> simp [usageChunks, hf]

theorem join_filter_toList (text : Option String) :
    String.join (text.filter (· ≠ "")).toList = text.getD "" := by
  cases text with
  | none => rfl
  | some s => by_cases h : s = "" <;> simp [h, Option.filter]

theorem getD_filter (text : Option String) : (text.filter (· ≠ "")).getD "" = text.getD "" := by
  cases text with
  | none => rfl
  | some s => by_cases h : s = "" <;> simp [h, Option.filter]

def fragments (index : Nat) (chunks : List Chunk) : List CallFragment :=
  chunks.filterMap (Chunk.fragment? index)

def PartialCall.extendAll (c : PartialCall) (fs : List CallFragment) : PartialCall :=
  fs.foldl (fun c f => c.extend f.id f.name f.arguments) c

theorem PartialCall.extendAll_eq (c : PartialCall) (fs : List CallFragment) :
    c.extendAll fs =
      ⟨(fs.filterMap (·.id)).getLast?.getD c.id, c.name ++ String.join (fs.filterMap (·.name)),
        c.arguments ++ String.join (fs.map (·.arguments))⟩ := by
  induction fs generalizing c with
  | nil => simp [extendAll]
  | cons f fs ih =>
    change (c.extend f.id f.name f.arguments).extendAll fs = _
    rw [ih]
    cases hid : f.id <;> cases hname : f.name <;>
      simp [extend, hid, hname, List.getLast?_cons, String.append_assoc]

def laneOf (fs : List CallFragment) : Option PartialCall :=
  if fs = [] then none else some (PartialCall.empty.extendAll fs)

namespace Accumulator

@[simp] theorem pushAll_nil (a : Accumulator) : a.pushAll [] = a := rfl

@[simp] theorem pushAll_cons (a : Accumulator) (c : Chunk) (cs : List Chunk) :
    a.pushAll (c :: cs) = (a.push c).pushAll cs := rfl

theorem text_pushAll (a : Accumulator) (cs : List Chunk) :
    (a.pushAll cs).text = a.text ++ String.join (cs.filterMap Chunk.text?) := by
  induction cs generalizing a with
  | nil => simp
  | cons c cs ih =>
    rw [pushAll_cons, ih]
    cases c <;> simp [push, List.filterMap_cons, Chunk.text?, String.append_assoc]

theorem citations_pushAll (a : Accumulator) (cs : List Chunk) :
    (a.pushAll cs).citations = a.citations ++ cs.filterMap Chunk.citation? := by
  induction cs generalizing a with
  | nil => simp
  | cons c cs ih =>
    rw [pushAll_cons, ih]
    cases c <;> simp [push, List.filterMap_cons, Chunk.citation?]

theorem usage_pushAll (a : Accumulator) (cs : List Chunk) :
    (a.pushAll cs).usage = (cs.filterMap Chunk.usage?).foldl Usage.addTo a.usage := by
  induction cs generalizing a with
  | nil => rfl
  | cons c cs ih =>
    rw [pushAll_cons, ih]
    cases c <;> simp [push, List.filterMap_cons, Chunk.usage?]

theorem indexed_push {a : Accumulator} (h : Indexed a.calls) (c : Chunk) :
    Indexed (a.push c).calls := by
  cases c with
  | call index id name arguments => exact indexed_updateCall h index _
  | text _ | citation _ | usage _ => exact h

theorem indexed_pushAll {a : Accumulator} (h : Indexed a.calls) (cs : List Chunk) :
    Indexed (a.pushAll cs).calls := by
  induction cs generalizing a with
  | nil => exact h
  | cons c cs ih => exact ih (indexed_push h c)

theorem lookup_push {a : Accumulator} (h : Indexed a.calls) (c : Chunk) (i : Nat) :
    (a.push c).calls.lookup i =
      match c.fragment? i with
      | some f => some (((a.calls.lookup i).getD .empty).extend f.id f.name f.arguments)
      | none => a.calls.lookup i := by
  cases c with
  | call index id name arguments =>
    rw [push, lookup_updateCall h]
    by_cases hi : i = index
    · simp [Chunk.fragment?, hi]
    · simp [Chunk.fragment?, hi, Ne.symm hi]
  | text _ | citation _ | usage _ => rfl

theorem lookup_pushAll {a : Accumulator} (h : Indexed a.calls) (cs : List Chunk) (i : Nat) :
    (a.pushAll cs).calls.lookup i =
      if fragments i cs = [] then a.calls.lookup i
      else some (((a.calls.lookup i).getD .empty).extendAll (fragments i cs)) := by
  induction cs generalizing a with
  | nil => rfl
  | cons c cs ih =>
    rw [pushAll_cons, ih (indexed_push h c), lookup_push h c]
    cases hf : c.fragment? i with
    | none => simp [fragments, hf]
    | some f =>
      by_cases later : fragments i cs = []
      · have one : fragments i (c :: cs) = [f] := by simpa [fragments, hf] using later
        simp [later, one, PartialCall.extendAll]
      · have more : fragments i (c :: cs) = f :: fragments i cs := by simp [fragments, hf]
        simp [later, more, PartialCall.extendAll]

theorem indexed_empty : Indexed empty.calls := .nil

/-- Every index has the call that its own fragments make. -/
theorem lookup_pushAll_empty (cs : List Chunk) (i : Nat) :
    (empty.pushAll cs).calls.lookup i = laneOf (fragments i cs) := by
  rw [lookup_pushAll indexed_empty]
  rfl

end Accumulator

def numberFrom (start : Nat) : List PartialCall → List (Nat × PartialCall)
  | [] => []
  | c :: rest => (start, c) :: numberFrom (start + 1) rest

theorem lt_of_mem_numberFrom {start : Nat} {calls : List PartialCall} {x : Nat × PartialCall}
    (h : x ∈ numberFrom start calls) : start ≤ x.1 := by
  induction calls generalizing start with
  | nil => simp [numberFrom] at h
  | cons c rest ih =>
    rcases List.mem_cons.1 h with rfl | h
    · exact Nat.le_refl _
    · have := ih h
      omega

theorem indexed_numberFrom (start : Nat) (calls : List PartialCall) :
    Indexed (numberFrom start calls) := by
  induction calls generalizing start with
  | nil => exact .nil
  | cons c rest ih => exact .cons (fun _ hx => lt_of_mem_numberFrom hx) (ih (start + 1))

theorem lookup_numberFrom (start : Nat) (calls : List PartialCall) (i : Nat) :
    (numberFrom start calls).lookup i = if start ≤ i then calls[i - start]? else none := by
  induction calls generalizing start with
  | nil => simp [numberFrom]
  | cons c rest ih =>
    rw [numberFrom, lookup_cons_entry, ih]
    rcases Nat.lt_trichotomy i start with lt | rfl | gt
    · have : ¬ start ≤ i := by omega
      have : ¬ start + 1 ≤ i := by omega
      have : i ≠ start := by omega
      simp [*]
    · simp
    · obtain ⟨k, rfl⟩ : ∃ k, i = start + 1 + k := ⟨i - (start + 1), by omega⟩
      have : start + 1 + k ≠ start := by omega
      have : start + 1 + k - start = k + 1 := by omega
      simp [*]
      omega

theorem mapM_numberFrom {α : Type} (f : PartialCall → Except RemoteError α) (start : Nat)
    (calls : List PartialCall) :
    ((numberFrom start calls).mapM fun (c : Nat × PartialCall) => f c.2) = calls.mapM f := by
  induction calls generalizing start with
  | nil => rfl
  | cons c rest ih => simp [numberFrom, ih]

/-- Fragments that fill lanes numbered from zero make an answer with the calls of the lanes. -/
theorem Completion.ofChunks_eq {chunks : List Chunk} {calls : List PartialCall}
    (lanes : ∀ i, laneOf (fragments i chunks) = calls[i]?) :
    Completion.ofChunks chunks = (calls.mapM PartialCall.finish).map fun calls =>
      ⟨if String.join (chunks.filterMap Chunk.text?) = "" then none
        else some (String.join (chunks.filterMap Chunk.text?)),
        calls, chunks.filterMap Chunk.citation?,
        (chunks.filterMap Chunk.usage?).foldl Usage.addTo none⟩ := by
  have sorted : (Accumulator.empty.pushAll chunks).calls = numberFrom 0 calls := by
    apply Indexed.ext (Accumulator.indexed_pushAll Accumulator.indexed_empty chunks)
      (indexed_numberFrom 0 calls)
    intro i
    rw [Accumulator.lookup_pushAll_empty, lookup_numberFrom, lanes]
    simp
  rw [Completion.ofChunks, Accumulator.finish, sorted, mapM_numberFrom,
    Accumulator.text_pushAll, Accumulator.citations_pushAll, Accumulator.usage_pushAll]
  simp [Accumulator.empty]

namespace Update

def text? : Update → Option String
  | .text s => some s
  | _ => none

def citation? : Update → Option Citation
  | .citation c => some c
  | _ => none

def usage? : Update → Option Usage
  | .usage u => some u
  | _ => none

end Update

theorem AgentResponse.applyAll_eq (r : AgentResponse) (us : List Update) :
    r.applyAll us =
      ⟨r.text ++ String.join (us.filterMap Update.text?),
        r.citations ++ us.filterMap Update.citation?,
        (us.filterMap Update.usage?).foldl Usage.addTo r.usage⟩ := by
  induction us generalizing r with
  | nil => simp
  | cons u rest ih =>
    rw [applyAll_cons, ih]
    cases u <;>
      simp [List.filterMap_cons, apply, addUsage, Update.text?, Update.citation?, Update.usage?,
        String.append_assoc]

end ChatAgents
