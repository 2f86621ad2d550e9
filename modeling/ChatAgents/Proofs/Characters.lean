import ChatAgents.Text.Characters
import ChatAgents.Text.Encoding
set_option autoImplicit false

namespace ChatAgents.Text.Utf8

/-- These bytes, read from a state, make one character with their last. -/
def Makes (c : Char) : State → List UInt8 → Prop
  | _, [] => False
  | s, [b] => step s b = ([some c], .between)
  | s, b :: b' :: bs =>
    ∃ more value low high, step s b = ([], .inside more value low high) ∧
      Makes c (.inside more value low high) (b' :: bs)

theorem decodeFrom_cons (s : State) (b : UInt8) (bs : List UInt8) :
    decodeFrom s (b :: bs) = (step s b).1 ++ decodeFrom (step s b).2 bs := by
  cases s <;> rfl

theorem decodeFrom_of_makes {c : Char} {s : State} {bs : List UInt8} (h : Makes c s bs)
    (rest : List UInt8) : decodeFrom s (bs ++ rest) = some c :: decodeFrom .between rest := by
  induction bs generalizing s with
  | nil => exact h.elim
  | cons b bs ih =>
    cases bs with
    | nil =>
      have last : step s b = ([some c], .between) := h
      rw [List.singleton_append, decodeFrom_cons, last]
      rfl
    | cons b' bs =>
      obtain ⟨more, value, low, high, first, more_bytes⟩ := h
      rw [List.cons_append, decodeFrom_cons, first]
      exact ih more_bytes

theorem decodeFrom_take_of_makes {c : Char} {s : State} {bs : List UInt8} (h : Makes c s bs)
    {k : Nat} (pos : 0 < k) (short : k < bs.length) : decodeFrom s (bs.take k) = [none] := by
  induction bs generalizing s k with
  | nil => exact h.elim
  | cons b bs ih =>
    cases bs with
    | nil =>
      simp only [List.length_cons, List.length_nil] at short
      omega
    | cons b' bs =>
      obtain ⟨more, value, low, high, first, more_bytes⟩ := h
      obtain ⟨k, rfl⟩ : ∃ j, k = j + 1 := ⟨k - 1, by omega⟩
      rw [List.take_succ_cons, decodeFrom_cons, first]
      cases k with
      | zero => rfl
      | succ k => exact ih more_bytes k.succ_pos (by simpa using short)

theorem toNat_ofNat_of_lt {v : Nat} (h : v < 256) : (UInt8.ofNat v).toNat = v := by
  rw [UInt8.toNat_ofNat']
  omega

theorem isValidChar_toNat (c : Char) :
    c.toNat < 0xD800 ∨ 0xDFFF < c.toNat ∧ c.toNat < 0x110000 := c.valid

theorem ofNat_eq_of_toNat {c : Char} {v : Nat} (h : v = c.toNat) : Char.ofNat v = c := by
  rw [h, Char.ofNat_toNat]

theorem step_last {value : Nat} {low high b : UInt8}
    (h : low.toNat ≤ b.toNat ∧ b.toNat ≤ high.toNat) :
    step (.inside 1 value low high) b =
      ([some (Char.ofNat (value * 64 + b.toNat % 64))], .between) := by
  have inside : low ≤ b ∧ b ≤ high := by rwa [UInt8.le_iff_toNat_le, UInt8.le_iff_toNat_le]
  simp only [step, inside, and_self, if_true]

theorem step_next {more value : Nat} {low high b : UInt8}
    (h : low.toNat ≤ b.toNat ∧ b.toNat ≤ high.toNat) :
    step (.inside (more + 2) value low high) b =
      ([], .inside (more + 1) (value * 64 + b.toNat % 64) 0x80 0xBF) := by
  have inside : low ≤ b ∧ b ≤ high := by rwa [UInt8.le_iff_toNat_le, UInt8.le_iff_toNat_le]
  simp only [step, inside, and_self, if_true]

theorem step_lead {b : UInt8} {s : State} (far : 0x80 ≤ b.toNat) (lead : State.ofLead? b = some s) :
    step .between b = ([], s) := by
  have not_ascii : ¬ b < 0x80 := by
    rw [UInt8.lt_iff_toNat_lt]
    change ¬ b.toNat < 128
    omega
  simp only [step, stepBetween, not_ascii, if_false, lead]

theorem ofLead?_two {b : UInt8} (h : 0xC2 ≤ b.toNat ∧ b.toNat ≤ 0xDF) :
    State.ofLead? b = some (.inside 1 (b.toNat % 32) 0x80 0xBF) := by
  simp only [State.ofLead?, h, and_self, if_true]

theorem ofLead?_three {b : UInt8} (h : 0xE0 ≤ b.toNat ∧ b.toNat ≤ 0xEF) :
    State.ofLead? b = some (.inside 2 (b.toNat % 16) (if b.toNat = 0xE0 then 0xA0 else 0x80)
      (if b.toNat = 0xED then 0x9F else 0xBF)) := by
  have two : ¬ (0xC2 ≤ b.toNat ∧ b.toNat ≤ 0xDF) := by omega
  rw [State.ofLead?]
  rw [if_neg two]
  by_cases first : b.toNat = 0xE0
  · simp [first]
  · by_cases surrogates : b.toNat = 0xED
    · simp [surrogates]
    · have others : 0xE1 ≤ b.toNat ∧ b.toNat ≤ 0xEF := by omega
      simp [first, surrogates, others]

theorem ofLead?_four {b : UInt8} (h : 0xF0 ≤ b.toNat ∧ b.toNat ≤ 0xF4) :
    State.ofLead? b = some (.inside 3 (b.toNat % 8) (if b.toNat = 0xF0 then 0x90 else 0x80)
      (if b.toNat = 0xF4 then 0x8F else 0xBF)) := by
  have two : ¬ (0xC2 ≤ b.toNat ∧ b.toNat ≤ 0xDF) := by omega
  have three : ¬ (0xE1 ≤ b.toNat ∧ b.toNat ≤ 0xEF) := by omega
  have first_three : ¬ b.toNat = 0xE0 := by omega
  have surrogates : ¬ b.toNat = 0xED := by omega
  rw [State.ofLead?]
  rw [if_neg two, if_neg first_three, if_neg surrogates, if_neg three]
  by_cases first : b.toNat = 0xF0
  · simp [first]
  · by_cases last : b.toNat = 0xF4
    · simp [last]
    · have others : 0xF1 ≤ b.toNat ∧ b.toNat ≤ 0xF3 := by omega
      simp [first, last, others]

theorem makes_ascii {c : Char} (h : c.toNat ≤ 0x7F) : Makes c .between [UInt8.ofNat c.toNat] := by
  have byte := toNat_ofNat_of_lt (v := c.toNat) (by omega)
  have ascii : UInt8.ofNat c.toNat < 0x80 := by
    rw [UInt8.lt_iff_toNat_lt, byte]
    change c.toNat < 128
    omega
  change step .between (UInt8.ofNat c.toNat) = _
  simp only [step, stepBetween, ascii, if_true, byte, Char.ofNat_toNat]

theorem makes_two {c : Char} (low : 0x7F < c.toNat) (high : c.toNat ≤ 0x7FF) :
    Makes c .between
      [UInt8.ofNat (c.toNat / 64 % 0x20 + 0xC0), UInt8.ofNat (c.toNat % 0x40 + 0x80)] := by
  have first := toNat_ofNat_of_lt (v := c.toNat / 64 % 0x20 + 0xC0) (by omega)
  have second := toNat_ofNat_of_lt (v := c.toNat % 0x40 + 0x80) (by omega)
  refine ⟨_, _, _, _, step_lead (by omega) (ofLead?_two (by omega)), ?_⟩
  change step _ _ = _
  rw [step_last ⟨?_, ?_⟩, ofNat_eq_of_toNat]
  · omega
  · change 128 ≤ _
    omega
  · change _ ≤ 191
    omega

theorem makes_three {c : Char} (low : 0x7FF < c.toNat) (high : c.toNat ≤ 0xFFFF) :
    Makes c .between
      [UInt8.ofNat (c.toNat / 4096 % 0x10 + 0xE0), UInt8.ofNat (c.toNat / 64 % 0x40 + 0x80),
        UInt8.ofNat (c.toNat % 0x40 + 0x80)] := by
  have valid := isValidChar_toNat c
  have first := toNat_ofNat_of_lt (v := c.toNat / 4096 % 0x10 + 0xE0) (by omega)
  have second := toNat_ofNat_of_lt (v := c.toNat / 64 % 0x40 + 0x80) (by omega)
  have third := toNat_ofNat_of_lt (v := c.toNat % 0x40 + 0x80) (by omega)
  refine ⟨_, _, _, _, step_lead (by omega) (ofLead?_three (by omega)),
    _, _, _, _, step_next ⟨?_, ?_⟩, ?_⟩
  · rw [apply_ite UInt8.toNat]
    change (if _ then 160 else 128) ≤ _
    split <;> omega
  · rw [apply_ite UInt8.toNat]
    change _ ≤ (if _ then 159 else 191)
    split <;> omega
  · change step _ _ = _
    rw [step_last ⟨?_, ?_⟩, ofNat_eq_of_toNat]
    · omega
    · change 128 ≤ _
      omega
    · change _ ≤ 191
      omega

theorem makes_four {c : Char} (low : 0xFFFF < c.toNat) :
    Makes c .between
      [UInt8.ofNat (c.toNat / 262144 % 0x08 + 0xF0), UInt8.ofNat (c.toNat / 4096 % 0x40 + 0x80),
        UInt8.ofNat (c.toNat / 64 % 0x40 + 0x80), UInt8.ofNat (c.toNat % 0x40 + 0x80)] := by
  have valid := isValidChar_toNat c
  have first := toNat_ofNat_of_lt (v := c.toNat / 262144 % 0x08 + 0xF0) (by omega)
  have second := toNat_ofNat_of_lt (v := c.toNat / 4096 % 0x40 + 0x80) (by omega)
  have third := toNat_ofNat_of_lt (v := c.toNat / 64 % 0x40 + 0x80) (by omega)
  have fourth := toNat_ofNat_of_lt (v := c.toNat % 0x40 + 0x80) (by omega)
  refine ⟨_, _, _, _, step_lead (by omega) (ofLead?_four (by omega)),
    _, _, _, _, step_next ⟨?_, ?_⟩, _, _, _, _, step_next ⟨?_, ?_⟩, ?_⟩
  · rw [apply_ite UInt8.toNat]
    change (if _ then 144 else 128) ≤ _
    split <;> omega
  · rw [apply_ite UInt8.toNat]
    change _ ≤ (if _ then 143 else 191)
    split <;> omega
  · change 128 ≤ _
    omega
  · change _ ≤ 191
    omega
  · change step _ _ = _
    rw [step_last ⟨?_, ?_⟩, ofNat_eq_of_toNat]
    · omega
    · change 128 ≤ _
      omega
    · change _ ≤ 191
      omega

theorem makes_encodeChar (c : Char) : Makes c .between (encodeChar c) := by
  unfold encodeChar String.utf8EncodeChar
  change Makes c .between (if c.toNat ≤ 0x7F then _ else if c.toNat ≤ 0x7FF then _ else
    if c.toNat ≤ 0xFFFF then _ else _)
  split
  · exact makes_ascii ‹_›
  · split
    · exact makes_two (by omega) ‹_›
    · split
      · exact makes_three (by omega) ‹_›
      · exact makes_four (by omega)

theorem length_encodeChar_of_ascii {c : Char} (h : c.toNat < 0x80) : (encodeChar c).length = 1 := by
  have ascii : c.val.toNat ≤ 0x7F := Nat.le_of_lt_succ h
  simp only [encodeChar, String.utf8EncodeChar, ascii, if_true, List.length_singleton]

theorem eq_of_mem_encodeChar {c : Char} {b : UInt8} (h : b ∈ encodeChar c) (ascii : b.toNat < 0x80) :
    c.toNat = b.toNat := by
  simp only [encodeChar, String.utf8EncodeChar] at h
  change b ∈ (if c.toNat ≤ 0x7F then _ else if c.toNat ≤ 0x7FF then _ else
    if c.toNat ≤ 0xFFFF then _ else _) at h
  split at h
  · obtain rfl := List.mem_singleton.1 h
    exact (toNat_ofNat_of_lt (by omega)).symm
  · exfalso
    have far {v : Nat} (low : 0x80 ≤ v) (high : v < 256) (hb : b = UInt8.ofNat v) : False := by
      have := toNat_ofNat_of_lt high
      rw [hb] at ascii
      omega
    split at h
    · simp only [List.mem_cons, List.not_mem_nil, or_false] at h
      rcases h with hb | hb <;> exact far (by omega) (by omega) hb
    · split at h
      · simp only [List.mem_cons, List.not_mem_nil, or_false] at h
        rcases h with hb | hb | hb <;> exact far (by omega) (by omega) hb
      · simp only [List.mem_cons, List.not_mem_nil, or_false] at h
        rcases h with hb | hb | hb | hb <;> exact far (by omega) (by omega) hb

theorem encode_append (s t : String) : encode (s ++ t) = encode s ++ encode t := by
  rw [encode, String.toList_append, List.flatMap_append, encode, encode]

theorem decodeFrom_append (cs : List Char) (rest : List UInt8) :
    decodeFrom .between (cs.flatMap encodeChar ++ rest) =
      cs.map some ++ decodeFrom .between rest := by
  induction cs with
  | nil => rfl
  | cons c cs ih =>
    rw [List.flatMap_cons, List.append_assoc, decodeFrom_of_makes (makes_encodeChar c), ih]
    rfl

theorem decodeFrom_encodeChars (cs : List Char) :
    decodeFrom .between (cs.flatMap encodeChar) = cs.map some := by
  simpa [decodeFrom] using decodeFrom_append cs []

theorem decodeLossy_encodeChars (cs : List Char) : decodeLossy (cs.flatMap encodeChar) = cs := by
  simp [decodeLossy, decodeFrom_encodeChars, Function.comp_def]

theorem decode?_encode (s : String) : decode? (encode s) = some s.toList := by
  simp only [decode?, encode, decodeFrom_encodeChars]
  induction s.toList with
  | nil => rfl
  | cons c cs ih => simp [List.mapM_cons, ih]

theorem encode_inj {s t : String} (h : encode s = encode t) : s = t := by
  have same : some s.toList = some t.toList := by rw [← decode?_encode, h, decode?_encode]
  exact String.toList_inj.1 (Option.some.inj same)

/-- What is read of a text whose bytes break off. -/
inductive Cut : List Char → List Char → Prop where
  | between (front back : List Char) : Cut (front ++ back) front
  | inside (front : List Char) (c : Char) (back : List Char) (far : 0x80 ≤ c.toNat) :
    Cut (front ++ c :: back) (front ++ [replacement])

theorem Cut.whole (cs : List Char) : Cut cs cs := by
  simpa using Cut.between cs []

theorem Cut.cons {cs x : List Char} (c : Char) (h : Cut cs x) : Cut (c :: cs) (c :: x) := by
  cases h with
  | between _ back => exact .between (c :: x) back
  | inside front d back far => exact .inside (c :: front) d back far

theorem Cut.cons_cases {c : Char} {cs x : List Char} (h : Cut (c :: cs) x) :
    x = [] ∨ 0x80 ≤ c.toNat ∧ x = [replacement] ∨ ∃ y, x = c :: y ∧ Cut cs y := by
  generalize whole : c :: cs = text at h
  cases h with
  | between _ back =>
    cases x with
    | nil => exact .inl rfl
    | cons d front =>
      obtain ⟨rfl, rfl⟩ := List.cons.inj whole
      exact .inr (.inr ⟨front, rfl, .between front back⟩)
  | inside front e back far =>
    cases front with
    | nil =>
      obtain ⟨rfl, rfl⟩ := List.cons.inj whole
      exact .inr (.inl ⟨far, rfl⟩)
    | cons d front =>
      obtain ⟨rfl, rfl⟩ := List.cons.inj whole
      exact .inr (.inr ⟨front ++ [replacement], rfl, .inside front e back far⟩)

theorem Cut.eq_nil {cs x : List Char} (h : Cut cs x) (empty : cs = []) : x = [] := by
  cases h with
  | between _ back => exact (List.append_eq_nil_iff.1 empty).1
  | inside front c back far => simp at empty

def Ascii (cs : List Char) : Prop := ∀ c ∈ cs, c.toNat < 0x80

-- tests the characters of the list, where a general instance may try all there are
instance : DecidablePred Ascii := fun cs =>
  decidable_of_iff (cs.all fun c => c.toNat < 0x80) (by simp [Ascii])

theorem Cut.append_cases {front cs x : List Char} (ascii : Ascii front) (h : Cut (front ++ cs) x) :
    (∃ k, k < front.length ∧ x = front.take k) ∨ ∃ y, x = front ++ y ∧ Cut cs y := by
  induction front generalizing x with
  | nil => exact .inr ⟨x, rfl, h⟩
  | cons c front ih =>
    have c_ascii := ascii c List.mem_cons_self
    rcases h.cons_cases with rfl | ⟨far, -⟩ | ⟨y, rfl, rest⟩
    · exact .inl ⟨0, Nat.zero_lt_succ _, rfl⟩
    · omega
    · rcases ih (fun d hd => ascii d (List.mem_cons_of_mem _ hd)) rest with ⟨k, lt, rfl⟩ | ⟨z, rfl, cut⟩
      · exact .inl ⟨k + 1, Nat.succ_lt_succ lt, rfl⟩
      · exact .inr ⟨z, rfl, cut⟩

theorem cut_take (cs : List Char) (n : Nat) :
    Cut cs (decodeLossy ((cs.flatMap encodeChar).take n)) := by
  induction cs generalizing n with
  | nil =>
    rw [List.flatMap_nil, List.take_nil]
    exact .between [] []
  | cons c cs ih =>
    rw [List.flatMap_cons, List.take_append]
    by_cases whole : (encodeChar c).length ≤ n
    · rw [List.take_of_length_le whole, decodeLossy, decodeFrom_of_makes (makes_encodeChar c)]
      exact (ih _).cons c
    · have none_left : n - (encodeChar c).length = 0 := by omega
      rw [none_left, List.take_zero, List.append_nil]
      rcases Nat.eq_zero_or_pos n with rfl | pos
      · exact .between [] (c :: cs)
      · rw [decodeLossy, decodeFrom_take_of_makes (makes_encodeChar c) pos (by omega)]
        refine .inside [] c cs ?_
        rcases Nat.lt_or_ge c.toNat 0x80 with ascii | far
        · have := length_encodeChar_of_ascii ascii
          omega
        · exact far

theorem dropTail_append (p : Char → Bool) (cs : List Char) : ∃ tail, cs = dropTail p cs ++ tail := by
  refine ⟨(cs.reverse.takeWhile p).reverse, ?_⟩
  rw [dropTail, ← List.reverse_append, List.takeWhile_append_dropWhile, List.reverse_reverse]

theorem Cut.trimEnd {cs x : List Char} (h : Cut cs x) : Cut cs (trimEndChars x) := by
  cases h with
  | between _ back =>
    obtain ⟨tail, split⟩ := dropTail_append isBlank x
    have whole : x ++ back = trimEndChars x ++ (tail ++ back) := by
      rw [← List.append_assoc]
      exact congrArg (· ++ back) split
    rw [whole]
    exact .between _ _
  | inside front c back far =>
    have shown : isBlank replacement = false := by decide
    rw [trimEndChars, dropTail_concat, shown]
    exact .inside front c back far

end ChatAgents.Text.Utf8
