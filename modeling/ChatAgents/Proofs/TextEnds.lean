import ChatAgents.Text.Characters
import Mathlib.Data.List.DropRight
set_option autoImplicit false

namespace ChatAgents.Text

variable {p : Char → Bool}

theorem exists_tail (p : Char → Bool) (cs : List Char) :
    ∃ tail, cs = dropTail p cs ++ tail ∧ ∀ c ∈ tail, p c = true :=
  ⟨cs.rtakeWhile p, List.rdropWhile_append_rtakeWhile.symm, fun _ => List.mem_rtakeWhile_imp⟩

theorem exists_replicate (c : Char) (cs : List Char) :
    ∃ n, cs = dropTail (· == c) cs ++ List.replicate n c := by
  obtain ⟨tail, whole, all⟩ := exists_tail (· == c) cs
  have same : tail = List.replicate tail.length c :=
    List.eq_replicate_of_mem fun d member => beq_iff_eq.1 (all d member)
  exact ⟨tail.length, whole.trans (congrArg _ same)⟩

theorem dropTail_of_all {tail : List Char} (h : ∀ c ∈ tail, p c = true) (cs : List Char) :
    dropTail p (cs ++ tail) = dropTail p cs := by
  rw [dropTail, dropTail, List.reverse_append,
    List.dropWhile_append_of_pos fun c hc => h c (List.mem_reverse.1 hc)]

theorem dropTail_dropTail {q : Char → Bool} (h : ∀ c, q c = true → p c = true) (cs : List Char) :
    dropTail p (dropTail q cs) = dropTail p cs := by
  obtain ⟨tail, whole, all⟩ := exists_tail q cs
  calc dropTail p (dropTail q cs) = dropTail p (dropTail q cs ++ tail) :=
        (dropTail_of_all (fun c hc => h c (all c hc)) _).symm
    _ = dropTail p cs := by rw [← whole]

theorem dropTail_eq_self_iff {cs : List Char} :
    dropTail p cs = cs ↔ ∀ c ∈ cs.getLast?, p c = false := by
  rcases List.eq_nil_or_concat cs with rfl | ⟨front, last, rfl⟩
  · simp
  · rw [List.concat_eq_append, dropTail_concat]
    cases dropped : p last with
    | false => simp [dropped]
    | true =>
      have shorter := (List.rdropWhile_prefix p front).length_le
      constructor
      · intro same
        have lengths := congrArg List.length same
        rw [if_pos rfl, List.length_append] at lengths
        change (List.rdropWhile p front).length = _ at lengths
        simp at lengths
        omega
      · intro stays
        have other := stays last (by simp)
        rw [dropped] at other
        cases other

theorem getLast?_dropTail (p : Char → Bool) (cs : List Char) :
    ∀ c ∈ (dropTail p cs).getLast?, p c = false :=
  dropTail_eq_self_iff.1 (List.rdropWhile_idempotent p cs)

theorem head?_of_dropTail {cs : List Char} {c : Char} (h : c ∈ (dropTail p cs).head?) :
    c ∈ cs.head? := by
  obtain ⟨tail, whole, _⟩ := exists_tail p cs
  rw [whole, List.head?_append, Option.mem_def.1 h]
  rfl

theorem dropTail_append_of_ne_nil {cs : List Char} (stays : dropTail p cs ≠ [])
    (front : List Char) : dropTail p (front ++ cs) = front ++ dropTail p cs := by
  obtain ⟨tail, whole, all⟩ := exists_tail p cs
  have kept : dropTail p (front ++ dropTail p cs) = front ++ dropTail p cs := by
    rw [dropTail_eq_self_iff]
    intro c last
    rw [List.getLast?_append, List.getLast?_eq_some_getLast stays] at last
    obtain rfl := Option.some.inj last
    exact getLast?_dropTail p cs _ (List.getLast?_eq_some_getLast stays)
  calc dropTail p (front ++ cs) = dropTail p (front ++ dropTail p cs ++ tail) := by
        rw [List.append_assoc, ← whole]
    _ = front ++ dropTail p cs := (dropTail_of_all all _).trans kept

theorem length_trimChars_le (cs : List Char) : (trimChars cs).length ≤ cs.length :=
  calc (trimChars cs).length ≤ (cs.dropWhile isBlank).length :=
        (List.rdropWhile_prefix isBlank _).length_le
    _ ≤ cs.length := (List.dropWhile_suffix isBlank).length_le

theorem trimChars_eq_self_iff {cs : List Char} :
    trimChars cs = cs ↔ (∀ c ∈ cs.head?, isBlank c = false) ∧
      ∀ c ∈ cs.getLast?, isBlank c = false := by
  rw [trimChars, trimEndChars]
  cases cs with
  | nil => simp
  | cons first rest =>
    cases blank : isBlank first with
    | false =>
      rw [List.dropWhile_cons_of_neg (by simp [blank]), dropTail_eq_self_iff]
      simp [blank]
    | true =>
      rw [List.dropWhile_cons_of_pos blank]
      constructor
      · intro same
        have shorter := (List.rdropWhile_prefix isBlank (rest.dropWhile isBlank)).length_le
        have behind := (List.dropWhile_suffix (l := rest) isBlank).length_le
        have lengths := congrArg List.length same
        change (List.rdropWhile isBlank (rest.dropWhile isBlank)).length = _ at lengths
        rw [List.length_cons] at lengths
        omega
      · intro stays
        have other := stays.1 first rfl
        rw [blank] at other
        cases other

theorem trim_eq_self_iff {s : String} :
    trim s = s ↔ (∀ c ∈ s.toList.head?, isBlank c = false) ∧
      ∀ c ∈ s.toList.getLast?, isBlank c = false := by
  rw [← trimChars_eq_self_iff, ← String.toList_inj, toList_trim]

theorem trim_trim (s : String) : trim (trim s) = trim s := by
  rw [trim_eq_self_iff, toList_trim, trimChars]
  refine ⟨?_, getLast?_dropTail isBlank _⟩
  intro c first
  have begins := List.head?_dropWhile_not isBlank s.toList
  rw [Option.mem_def.1 (head?_of_dropTail first)] at begins
  exact begins

end ChatAgents.Text
