import ChatAgents.Proofs.Addresses
set_option autoImplicit false

/-!
# Paths of resources

Ids are put into addresses as they are. Behind an endpoint without query and fragment, those that
are segments of a path come out as such, so the path of a request says for what it was sent.
-/

namespace ChatAgents.Http

/-- A text that is a segment of a path as it stands. -/
def isSegment (s : List Char) : Bool :=
  s.all (fun c => keepInPath c && c != '/' && c != '\\') && !isDot s && !isDotDot s

def pathOf (segments : List (List Char)) : List Char := segments.flatMap ('/' :: ·)

section Segments

variable {s : List Char} (h : isSegment s = true)
include h

theorem isSegment_dots : isDot s = false ∧ isDotDot s = false := by
  simp only [isSegment, Bool.and_eq_true, Bool.not_eq_true'] at h
  exact ⟨h.1.2, h.2⟩

theorem isSegment_char {c : Char} (member : c ∈ s) :
    keepInPath c = true ∧ c ≠ '/' ∧ c ≠ '\\' := by
  simp only [isSegment, Bool.and_eq_true, List.all_eq_true] at h
  have one := h.1.1 c member
  exact ⟨one.1.1, by simpa using one.1.2, by simpa using one.2⟩

theorem isSlash_segment (k : SchemeKind) {c : Char} (member : c ∈ s) : k.isSlash c = false := by
  obtain ⟨-, slash, backslash⟩ := isSegment_char h member
  simp [SchemeKind.isSlash, slash, backslash]

theorem percentEncode_segment : percentEncode keepInPath s = s := by
  have kept (c : Char) (member : c ∈ s) : percentChar keepInPath c = [c] :=
    if_pos (isSegment_char h member).1
  rw [percentEncode, List.flatMap_def, List.map_congr_left kept, ← List.flatMap_def,
    List.flatMap_singleton']

theorem isSegment_inside {c : Char} (member : c ∈ s) :
    0x20 < c.toNat ∧ c ≠ '#' ∧ c ≠ '?' := by
  have kept := (isSegment_char h member).1
  simp only [keepInPath, printableExcept, Bool.and_eq_true, decide_eq_true_eq, Bool.not_eq_true',
    List.contains_eq_mem, List.mem_cons, List.not_mem_nil, or_false, decide_eq_false_iff_not,
    not_or] at kept
  obtain ⟨⟨low, -⟩, space, -, hash, -, -, question, -⟩ := kept
  refine ⟨Nat.lt_of_le_of_ne low fun same => space ?_, hash, question⟩
  exact Char.toNat_inj.1 same.symm

end Segments

theorem splitAll_append_cons {p : Char → Bool} {c : Char} (cut : p c = true) (front back : List Char) :
    Text.splitAll p (front ++ c :: back) = Text.splitAll p front ++ Text.splitAll p back := by
  induction front with
  | nil => simp [Text.splitAll, cut]
  | cons d ds ih =>
    rw [List.cons_append, Text.splitAll, Text.splitAll, ih]
    split
    · rfl
    · cases parts : Text.splitAll p ds with
      | nil => exact absurd parts (Text.splitAll_ne_nil p ds)
      | cons part rest => rfl

theorem splitAll_of_none {p : Char → Bool} {cs : List Char} (h : ∀ c ∈ cs, p c = false) :
    Text.splitAll p cs = [cs] := by
  induction cs with
  | nil => rfl
  | cons c cs ih =>
    rw [Text.splitAll, h c List.mem_cons_self, ih fun d member => h d (List.mem_cons_of_mem c member)]
    rfl

theorem splitAll_segments (k : SchemeKind) {s : List Char} {rest : List (List Char)}
    (segments : ∀ t ∈ s :: rest, isSegment t = true) :
    Text.splitAll k.isSlash (s ++ pathOf rest) = s :: rest := by
  have slash : k.isSlash '/' = true := by simp [SchemeKind.isSlash]
  have first := splitAll_of_none fun c member =>
    isSlash_segment (segments s List.mem_cons_self) k member
  induction rest generalizing s with
  | nil => rwa [pathOf, List.flatMap_nil, List.append_nil]
  | cons t ts ih =>
    have later : ∀ t' ∈ t :: ts, isSegment t' = true := fun t' member =>
      segments t' (List.mem_cons_of_mem s member)
    rw [pathOf, List.flatMap_cons, List.cons_append, splitAll_append_cons slash, first]
    refine congrArg (s :: ·) (ih later ?_)
    exact splitAll_of_none fun c member => isSlash_segment (later t List.mem_cons_self) k member

theorem resolveDots_cons (done : List (List Char)) (s : List Char) :
    ∃ done', ∀ rest : List (List Char), rest ≠ [] →
      resolveDots done (s :: rest) = resolveDots done' rest := by
  by_cases up : isDotDot s = true
  · refine ⟨if done.head?.any isDriveLetter then done else done.tail, fun rest more => ?_⟩
    rw [resolveDots, if_pos up]
    exact if_neg (by rwa [List.isEmpty_iff])
  · by_cases here : isDot s = true
    · refine ⟨done, fun rest more => ?_⟩
      rw [resolveDots, if_neg up, if_pos here]
      exact if_neg (by rwa [List.isEmpty_iff])
    · refine ⟨s :: done, fun rest _ => ?_⟩
      rw [resolveDots, if_neg up, if_neg here]

theorem resolveDots_kept {segments : List (List Char)} (done : List (List Char))
    (kept : ∀ s ∈ segments, isDot s = false ∧ isDotDot s = false) :
    resolveDots done segments = done.reverse ++ segments := by
  induction segments generalizing done with
  | nil => simp [resolveDots]
  | cons s rest ih =>
    obtain ⟨dot, dots⟩ := kept s List.mem_cons_self
    rw [resolveDots, dots, dot, if_neg Bool.false_ne_true, if_neg Bool.false_ne_true,
      ih (s :: done) fun t member => kept t (List.mem_cons_of_mem s member), List.reverse_cons,
      List.append_assoc]
    rfl

/-- Segments at the end stay, whatever the dots before them come to. -/
theorem resolveDots_append (done front : List (List Char)) :
    ∃ resolved, ∀ segments, segments ≠ [] →
      (∀ s ∈ segments, isDot s = false ∧ isDotDot s = false) →
      resolveDots done (front ++ segments) = resolved ++ segments := by
  induction front generalizing done with
  | nil => exact ⟨done.reverse, fun segments _ kept => resolveDots_kept done kept⟩
  | cons s front ih =>
    obtain ⟨done', step⟩ := resolveDots_cons done s
    obtain ⟨resolved, stays⟩ := ih done'
    refine ⟨resolved, fun segments more kept => ?_⟩
    rw [List.cons_append, step _ (by simp [more])]
    exact stays segments more kept

theorem joinSegments_append (front back : List (List Char)) :
    joinSegments (front ++ back) = joinSegments front ++ joinSegments back := List.flatMap_append

theorem joinSegments_segments {segments : List (List Char)}
    (h : ∀ s ∈ segments, isSegment s = true) : joinSegments segments = pathOf segments := by
  rw [joinSegments, pathOf, List.flatMap_def, List.flatMap_def]
  refine congrArg List.flatten (List.map_congr_left fun s member => ?_)
  rw [percentEncode_segment (h s member)]

theorem pathBehindHost_append (k : SchemeKind) (front : List Char) :
    ∃ before, ∀ back, pathBehindHost k (front ++ '/' :: back) =
      joinSegments (resolveDots [] (before ++ Text.splitAll k.isSlash back)) := by
  have slash : k.isSlash '/' = true := by simp [SchemeKind.isSlash]
  cases front with
  | nil => exact ⟨[], fun back => by rw [List.nil_append, pathBehindHost, if_pos slash]; rfl⟩
  | cons c cs =>
    refine ⟨Text.splitAll k.isSlash (if k.isSlash c then cs else c :: cs), fun back => ?_⟩
    rw [List.cons_append, pathBehindHost, segmentsOf, ← splitAll_append_cons slash]
    split <;> rfl

theorem pathBehindHost_segments {k : SchemeKind} {front base : List Char}
    (h : pathBehindHost k (front ++ ['/']) = base ++ ['/']) {segments : List (List Char)}
    (some_segment : segments ≠ []) (kept : ∀ s ∈ segments, isSegment s = true) :
    pathBehindHost k (front ++ pathOf segments) = base ++ pathOf segments := by
  obtain ⟨before, split⟩ := pathBehindHost_append k front
  obtain ⟨resolved, stays⟩ := resolveDots_append [] before
  have ends : joinSegments resolved = base := by
    have empty : ∀ s ∈ [([] : List Char)], isDot s = false ∧ isDotDot s = false := by decide
    rw [split, Text.splitAll, stays _ (List.cons_ne_nil _ _) empty, joinSegments_append] at h
    exact List.append_cancel_right h
  cases segments with
  | nil => exact absurd rfl some_segment
  | cons s rest =>
    have whole : pathOf (s :: rest) = '/' :: (s ++ pathOf rest) := rfl
    rw [whole, split, splitAll_segments k kept, stays _ some_segment fun t member =>
      isSegment_dots (kept t member), joinSegments_append, ends, joinSegments_segments kept, whole]

theorem front?_segments {port : Nat} {front base : List Char} {authority : Option Authority}
    (h : Url.front? (.network port) (front ++ ['/']) false = some (authority, base ++ ['/']))
    {segments : List (List Char)} (some_segment : segments ≠ [])
    (kept : ∀ s ∈ segments, isSegment s = true) :
    Url.front? (.network port) (front ++ pathOf segments) false =
      some (authority, base ++ pathOf segments) := by
  let k := SchemeKind.network port
  have from_host (cs : List Char) :
      Url.front? k cs false = Url.frontAt? k (cs.dropWhile k.isSlash) false := by
    rw [Url.front?]
    dsimp only [k]
    rw [drop_takeWhile]
  have slash : k.isSlash '/' = true := rfl
  obtain ⟨s, rest, rfl⟩ := List.exists_cons_of_ne_nil some_segment
  change Url.front? k (front ++ '/' :: (s ++ pathOf rest)) false = _
  rw [from_host, List.dropWhile_append] at h ⊢
  split at h <;> rename_i only_slashes
  · -- nobody is asked if there is nothing before the path
    rw [List.dropWhile_cons_of_pos slash, frontAt?_eq] at h
    have named : k ≠ .other := by simp [k]
    simp [read?_nil named] at h
  · rw [if_neg only_slashes]
    have stop : (!k.isSlash '/') = false := rfl
    have goes_on (cs : List Char) (back : List Char) : (false || cs ++ '/' :: back != []) = true := by
      simp
    rw [frontAt?_eq, takeWhile_stop stop, dropWhile_stop stop, goes_on] at h ⊢
    obtain ⟨x, read, same⟩ := Option.map_eq_some_iff.1 h
    obtain ⟨asked, path⟩ := Prod.mk.inj same
    rw [read, Option.map_some, asked]
    rw [← List.append_assoc] at path ⊢
    exact congrArg (fun path => some (authority, path))
      (pathBehindHost_segments path some_segment kept)

theorem not_mem_of_splitFirst {mark : Char} {cs : List Char} (h : (Text.splitFirst mark cs).2 = none) :
    mark ∉ cs := fun member => by
  have found := splitFirst_isSome member
  rw [h] at found
  cases found

theorem cleanEnd_of_inside {cs : List Char} (h : ∀ c ∈ cs, 0x20 < c.toNat) : cleanEnd cs = cs := by
  have outer : (cs.reverse.dropWhile fun c => decide (c.toNat ≤ 0x20)) = cs.reverse := by
    cases back : cs.reverse with
    | nil => rfl
    | cons c rest =>
      have last : c ∈ cs := List.mem_reverse.1 (by rw [back]; exact List.mem_cons_self)
      rw [List.dropWhile_cons_of_neg (by simpa using h c last)]
  rw [cleanEnd, outer, List.reverse_reverse, List.filter_eq_self]
  intro c member
  have beyond := h c member
  have other (d : Char) (low : d.toNat ≤ 0x20) : c ≠ d := fun same => by
    rw [same] at beyond
    omega
  simp [other '\t' (by decide), other '\n' (by decide), other '\r' (by decide)]

/-- A place on the web with a path and nothing behind it. -/
structure IsPlace (base : List Char) (u : Url) : Prop where
  web : ["http", "https"].contains (String.ofList u.scheme) = true
  path : u.path = base ++ ['/']
  query : u.query = none
  fragment : u.fragment = none

/-- What is written behind such a place goes on with its path. -/
theorem parse?_segments {endpoint text : String} {base : List Char} {u : Url}
    (found : Url.parse? (endpoint ++ "/") = some u) (place : IsPlace base u)
    {segments : List (List Char)} (some_segment : segments ≠ [])
    (kept : ∀ s ∈ segments, isSegment s = true) (written : '/' :: text.toList = pathOf segments) :
    Url.parse? (endpoint ++ "/" ++ text) = some { u with path := base ++ pathOf segments } := by
  obtain ⟨web, path, query, fragment⟩ := place
  have inside : ∀ c ∈ '/' :: text.toList, 0x20 < c.toNat ∧ c ≠ '#' ∧ c ≠ '?' := by
    rw [written]
    intro c member
    obtain ⟨s, segment, member⟩ := List.mem_flatMap.1 member
    rcases List.mem_cons.1 member with rfl | member
    · decide
    · exact isSegment_inside (kept s segment) member
  have clean : cleanEnd text.toList = text.toList :=
    cleanEnd_of_inside fun c member => (inside c (List.mem_cons_of_mem _ member)).1
  have short : (endpoint ++ "/").toList = endpoint.toList ++ '/' :: [] := by simp
  have long : (endpoint ++ "/" ++ text).toList = endpoint.toList ++ '/' :: text.toList := by simp
  have nothing : cleanEnd [] = [] := rfl
  rw [parse?_eq, short, cleanAddress_append, nothing] at found
  obtain ⟨⟨scheme, rest⟩, named, found⟩ := Option.bind_eq_some_iff.1 found
  obtain ⟨⟨authority, path'⟩, read, rfl⟩ := Option.map_eq_some_iff.1 found
  obtain ⟨front, rfl, renamed⟩ := splitScheme?_append named
  dsimp only at web path query fragment read
  have no_hash : '#' ∉ front ++ ['/'] := not_mem_of_splitFirst (Option.map_eq_none_iff.1 fragment)
  rw [splitFirst_of_not_mem no_hash] at query read
  have no_question : '?' ∉ front ++ ['/'] := not_mem_of_splitFirst (Option.map_eq_none_iff.1 query)
  rw [splitFirst_of_not_mem no_question] at read
  obtain ⟨port, network⟩ := network_of_web web
  rw [network, path] at read
  have reread := front?_segments read some_segment kept
  have absent {mark : Char} (before : mark ∉ front ++ ['/']) (behind : mark ∉ '/' :: text.toList) :
      mark ∉ front ++ '/' :: text.toList := fun member =>
    (List.mem_append.1 member).elim (fun h => before (List.mem_append_left _ h)) behind
  rw [parse?_eq, long, cleanAddress_append, clean, renamed, Option.bind_some]
  dsimp only
  rw [splitFirst_of_not_mem (absent no_hash fun member => (inside _ member).2.1 rfl),
    splitFirst_of_not_mem (absent no_question fun member => (inside _ member).2.2 rfl), network,
    written]
  rw [Option.isSome_none, Bool.or_false, reread, splitFirst_of_not_mem no_hash,
    splitFirst_of_not_mem no_question]
  rfl

theorem path_sentTo (d : Draft) (u : Url) : (d.sentTo u).path = u.path := by
  have fields (fields : List (String × String)) (u : Url) :
      (fields.foldl (fun u f => u.addField f.1 f.2) u).path = u.path := by
    induction fields generalizing u with
    | nil => rfl
    | cons f rest ih => exact ih (u.addField f.1 f.2)
  rw [Draft.sentTo, fields]
  split <;> rfl

end ChatAgents.Http

namespace ChatAgents.Hosting

open Http (isSegment pathOf)

/-- The endpoint is a place on the web with this path. -/
def Config.IsAt (c : Config) (base : List Char) : Prop :=
  ∃ u, Http.Url.parse? (c.endpoint ++ "/") = some u ∧ Http.IsPlace base u

def IsSegment (id : String) : Prop := isSegment id.toList = true

instance (id : String) : Decidable (IsSegment id) :=
  inferInstanceAs (Decidable (isSegment id.toList = true))

namespace Operation

def segments : Operation → List (List Char)
  | .createAgent _ => ["assistants".toList]
  | .deleteAgent id => ["assistants".toList, id.toList]
  | .createThread => ["threads".toList]
  | .deleteThread id => ["threads".toList, id.toList]
  | .createMessage threadId _ | .listMessages threadId _ =>
    ["threads".toList, threadId.toList, "messages".toList]
  | .createRun threadId _ _ => ["threads".toList, threadId.toList, "runs".toList]
  | .getRun threadId runId => ["threads".toList, threadId.toList, "runs".toList, runId.toList]
  | .submitOutputs threadId runId _ _ =>
    ["threads".toList, threadId.toList, "runs".toList, runId.toList, "submit_tool_outputs".toList]

def ids : Operation → List String
  | .createAgent _ | .createThread => []
  | .deleteAgent id | .deleteThread id => [id]
  | .createMessage threadId _ | .listMessages threadId _ | .createRun threadId _ _ => [threadId]
  | .getRun threadId runId | .submitOutputs threadId runId _ _ => [threadId, runId]

variable {c : Config} {base : List Char} {o : Operation} {q : Http.Request}

theorem path_eq_segments (o : Operation) : '/' :: o.path.toList = pathOf o.segments := by
  cases o <;> simp [path, segments, pathOf]

theorem isSegment_segments (named : ∀ id ∈ o.ids, IsSegment id) :
    ∀ s ∈ o.segments, isSegment s = true := by
  have words : ∀ w ∈ ["assistants", "threads", "messages", "runs", "submit_tool_outputs"],
      isSegment w.toList = true := by decide
  cases o <;> simp_all [segments, ids, IsSegment]

theorem path_of_build (place : c.IsAt base) (named : ∀ id ∈ o.ids, IsSegment id)
    (built : (o.draft c).build = .ok q) : q.url.path = base ++ pathOf o.segments := by
  obtain ⟨u, found, at_base⟩ := place
  have segments : o.segments ≠ [] := by cases o <;> exact List.cons_ne_nil _ _
  have address : Http.Url.parse? (o.draft c).address =
      some { u with path := base ++ pathOf o.segments } :=
    Http.parse?_segments found at_base segments (isSegment_segments named) o.path_eq_segments
  rw [Http.build_of_parse address] at built
  split at built
  · cases built
  · split at built
    · cases built
    · split at built
      · cases built
      · obtain rfl := Except.ok.inj built
        exact Http.path_sentTo _ _

end Operation
end ChatAgents.Hosting
