import ChatAgents.Proofs.Lanes
set_option autoImplicit false

namespace ChatAgents

namespace Usage

/-- A total that reports come to: in an accumulator or a response, where each chunk, turn or update
may bring a report or itself the total of some. -/
inductive Tallied : List Usage → Option Usage → Prop
  | nothing : Tallied [] none
  | report (u : Usage) : Tallied [u] (some u)
  | sum {us vs : List Usage} {u v : Usage} (left : Tallied us (some u))
      (right : Tallied vs (some v)) : Tallied (us ++ vs) (some (u.add v))
  | push {us vs : List Usage} (a : Accumulator) (c : Chunk) (before : Tallied us a.usage)
      (more : Tallied vs c.usage?) : Tallied (us ++ vs) (a.push c).usage
  | finish {us : List Usage} {a : Accumulator} {c : Completion} (done : a.finish = .ok c)
      (before : Tallied us a.usage) : Tallied us c.usage
  | turn {us vs : List Usage} (r : AgentResponse) (c : Completion) (before : Tallied us r.usage)
      (more : Tallied vs c.usage) : Tallied (us ++ vs) (r.addCompletion c).usage
  | update {us vs : List Usage} (r : AgentResponse) (u : Update) (before : Tallied us r.usage)
      (more : Tallied vs u.usage?) : Tallied (us ++ vs) (r.apply u).usage

theorem usage_push (a : Accumulator) (c : Chunk) : (a.push c).usage = join a.usage c.usage? := by
  cases c <;> rfl

theorem usage_addCompletion (r : AgentResponse) (c : Completion) :
    (r.addCompletion c).usage = join r.usage c.usage := by
  cases usage : c.usage <;> simp [AgentResponse.addCompletion, usage, join]

theorem usage_apply (r : AgentResponse) (u : Update) : (r.apply u).usage = join r.usage u.usage? := by
  cases u <;> rfl

theorem usage_of_finish {a : Accumulator} {c : Completion} (done : a.finish = .ok c) :
    c.usage = a.usage := by
  obtain ⟨_, _, finished⟩ := bind_eq_ok_iff.1 done
  obtain rfl := Except.ok.inj finished
  rfl

namespace IsTotal

variable {us vs : List Usage} {t t' : Option Usage}

theorem unique (left : IsTotal us t) (right : IsTotal vs t') (same : us.Perm vs) : t = t' := by
  cases t with
  | none =>
    obtain rfl := left.isNone.1 rfl
    exact (right.isNone.2 same.nil_eq.symm).symm
  | some u =>
    cases t' with
    | none =>
      obtain rfl := right.isNone.1 rfl
      exact left.isNone.2 same.eq_nil
    | some v =>
      have input : u.input = v.input := by
        rw [← UInt32.toNat_inj, left.input u rfl, right.input v rfl, (same.map _).sum_nat]
      have output : u.output = v.output := by
        rw [← UInt32.toNat_inj, left.output u rfl, right.output v rfl, (same.map _).sum_nat]
      obtain ⟨_, _⟩ := u
      obtain ⟨_, _⟩ := v
      cases input
      cases output
      rfl

end IsTotal

namespace Tallied

theorem isTotal {reports : List Usage} {total : Option Usage} (h : Tallied reports total) :
    IsTotal reports total := by
  induction h with
  | nothing => exact .toList none
  | report u => exact .single u
  | sum _ _ left right => exact left.add right
  | push a c _ _ before more => exact usage_push a c ▸ before.join more
  | finish done _ before => exact usage_of_finish done ▸ before
  | turn r c _ _ before more => exact usage_addCompletion r c ▸ before.join more
  | update r u _ _ before more => exact usage_apply r u ▸ before.join more

theorem toList (t : Option Usage) : Tallied t.toList t := by
  cases t with
  | none => exact .nothing
  | some u => exact .report u

variable {us : List Usage}

theorem pushAll {a : Accumulator} (before : Tallied us a.usage) (chunks : List Chunk) :
    Tallied (us ++ chunks.filterMap Chunk.usage?) (a.pushAll chunks).usage := by
  induction chunks generalizing us a with
  | nil => simpa using before
  | cons c rest ih =>
    have next := ih (.push a c before (toList c.usage?))
    cases report : c.usage? <;> simpa [report] using next

theorem ofChunks {chunks : List Chunk} {c : Completion} (h : Completion.ofChunks chunks = .ok c) :
    Tallied (chunks.filterMap Chunk.usage?) c.usage := by
  have pushed : Tallied ([] ++ chunks.filterMap Chunk.usage?)
      (Accumulator.empty.pushAll chunks).usage := nothing.pushAll chunks
  exact .finish h pushed

theorem applyAll {r : AgentResponse} (before : Tallied us r.usage) (updates : List Update) :
    Tallied (us ++ updates.filterMap Update.usage?) (r.applyAll updates).usage := by
  induction updates generalizing us r with
  | nil => simpa using before
  | cons u rest ih =>
    have next := ih (.update r u before (toList u.usage?))
    cases report : u.usage? <;> simpa [report] using next

theorem ofUpdates (updates : List Update) :
    Tallied (updates.filterMap Update.usage?) (AgentResponse.ofUpdates updates).usage := by
  have applied : Tallied ([] ++ updates.filterMap Update.usage?)
      (AgentResponse.empty.applyAll updates).usage := nothing.applyAll updates
  exact applied

theorem turns {r : AgentResponse} (before : Tallied us r.usage) {turns : List (List Chunk)}
    {answers : List Completion} (read : turns.mapM Completion.ofChunks = .ok answers) :
    Tallied (us ++ turns.flatten.filterMap Chunk.usage?)
      (answers.foldl AgentResponse.addCompletion r).usage := by
  induction turns generalizing us r answers with
  | nil =>
    obtain rfl := Except.ok.inj read
    simpa using before
  | cons chunks rest ih =>
    obtain ⟨c, later, first, more, rfl⟩ := ok_of_mapM_cons read
    have next := ih (.turn r c before (ofChunks first)) more
    simpa using next

end Tallied
end Usage

/-- Reports add up in each field to their sum as far as a word holds it, and there is a total exactly
if there is a report, in whatever groups they are pushed to accumulators, added turn by turn or
applied as updates, and in whatever order. Of updates one behind the other the texts and citations
are put together and the totals added up. -/
theorem reports_add_up :
    (∀ reports total, Usage.Tallied reports total → Usage.IsTotal reports total) ∧
      (∀ reports reports' total total', Usage.Tallied reports total →
        Usage.Tallied reports' total' → reports.Perm reports' → total = total') ∧
      (∀ (turns : List (List Chunk)) answers, turns.mapM Completion.ofChunks = .ok answers →
        Usage.Tallied (turns.flatten.filterMap Chunk.usage?)
          (answers.foldl AgentResponse.addCompletion .empty).usage) ∧
      (∀ updates, Usage.Tallied (updates.filterMap Update.usage?)
        (AgentResponse.ofUpdates updates).usage) ∧
      ∀ xs ys : List Update,
        let x := AgentResponse.ofUpdates xs
        let y := AgentResponse.ofUpdates ys
        let whole := AgentResponse.ofUpdates (xs ++ ys)
        whole.text = x.text ++ y.text ∧ whole.citations = x.citations ++ y.citations ∧
          Usage.IsTotal (x.usage.toList ++ y.usage.toList) whole.usage := by
  refine ⟨fun _ _ h => h.isTotal, ?_, ?_, Usage.Tallied.ofUpdates, ?_⟩
  · intro reports reports' total total' left right same
    exact left.isTotal.unique right.isTotal same
  · intro turns answers read
    have added : Usage.Tallied ([] ++ turns.flatten.filterMap Chunk.usage?)
        (answers.foldl AgentResponse.addCompletion .empty).usage := Usage.Tallied.nothing.turns read
    exact added
  · intro xs ys x y whole
    have reports : xs.filterMap Update.usage? ++ ys.filterMap Update.usage? =
        (xs ++ ys).filterMap Update.usage? := List.filterMap_append.symm
    have joined := (Usage.Tallied.ofUpdates xs).isTotal.join (Usage.Tallied.ofUpdates ys).isTotal
    have usage : Usage.join x.usage y.usage = whole.usage :=
      joined.unique (Usage.Tallied.ofUpdates (xs ++ ys)).isTotal (.of_eq reports)
    refine ⟨?_, ?_, ?_⟩
    · simp [x, y, whole, AgentResponse.ofUpdates, AgentResponse.applyAll_eq, AgentResponse.empty]
    · simp [x, y, whole, AgentResponse.ofUpdates, AgentResponse.applyAll_eq, AgentResponse.empty]
    · exact usage ▸ (Usage.IsTotal.toList x.usage).join (.toList y.usage)

def longTurns : List (List Chunk) :=
  [[.usage ⟨4294967290, 1⟩, .text "Wait", .usage ⟨3, 0⟩], [.usage ⟨10, 2⟩]]

def longUpdates : List Update := [.usage ⟨10, 2⟩, .usage ⟨3, 0⟩, .text "Wait", .usage ⟨4294967290, 1⟩]

theorem long_turns_add_up :
    ∃ answers, longTurns.mapM Completion.ofChunks = .ok answers ∧
      (answers.foldl AgentResponse.addCompletion .empty).usage = some ⟨4294967295, 3⟩ ∧
      (AgentResponse.ofUpdates longUpdates).usage = some ⟨4294967295, 3⟩ := by
  obtain ⟨-, order, turns, updates, -⟩ := reports_add_up
  have read : longTurns.mapM Completion.ofChunks =
      .ok [⟨some "Wait", [], [], some ⟨4294967293, 1⟩⟩, ⟨none, [], [], some ⟨10, 2⟩⟩] := rfl
  have same : (longTurns.flatten.filterMap Chunk.usage?).Perm
      (longUpdates.filterMap Update.usage?) := by decide
  have total : (AgentResponse.ofUpdates longUpdates).usage = some ⟨4294967295, 3⟩ := rfl
  exact ⟨_, read, (order _ _ _ _ (turns _ _ read) (updates longUpdates) same).trans total, total⟩

end ChatAgents
