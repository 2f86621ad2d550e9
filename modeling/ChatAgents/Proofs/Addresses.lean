import ChatAgents.Hosting.Operation
set_option autoImplicit false

namespace ChatAgents.Http

section Stops

variable {p : Char → Bool} {c : Char} (stop : p c = false) (front back : List Char)
include stop

theorem takeWhile_stop : (front ++ c :: back).takeWhile p = front.takeWhile p := by
  rw [List.takeWhile_append, List.takeWhile_cons_of_neg (by simp [stop]), List.append_nil]
  split <;> rename_i all
  · exact ((List.takeWhile_prefix p).eq_of_length all).symm
  · rfl

theorem dropWhile_stop : (front ++ c :: back).dropWhile p = front.dropWhile p ++ c :: back := by
  rw [List.dropWhile_append, List.dropWhile_cons_of_neg (by simp [stop])]
  split <;> rename_i none_left
  · rw [List.isEmpty_iff.1 none_left, List.nil_append]
  · rfl

end Stops

theorem drop_takeWhile (p : Char → Bool) (cs : List Char) :
    cs.drop (cs.takeWhile p).length = cs.dropWhile p := by
  have whole : cs.takeWhile p ++ cs.dropWhile p = cs := List.takeWhile_append_dropWhile
  calc cs.drop (cs.takeWhile p).length
      = (cs.takeWhile p ++ cs.dropWhile p).drop (cs.takeWhile p).length := by rw [whole]
    _ = cs.dropWhile p := List.drop_left

theorem splitFirst_cons (mark c : Char) (cs : List Char) :
    Text.splitFirst mark (c :: cs) =
      if c = mark then ([], some cs)
      else (c :: (Text.splitFirst mark cs).1, (Text.splitFirst mark cs).2) := by
  unfold Text.splitFirst
  by_cases here : c = mark
  · simp [here]
  · rw [List.dropWhile_cons_of_pos (by simpa using here), if_neg here,
      List.takeWhile_cons_of_pos (by simpa using here)]
    cases cs.dropWhile (· != mark) <;> rfl

theorem splitFirst_append (mark : Char) (front back : List Char) :
    Text.splitFirst mark (front ++ back) =
      if mark ∈ front then
        ((Text.splitFirst mark front).1, (Text.splitFirst mark front).2.map (· ++ back))
      else (front ++ (Text.splitFirst mark back).1, (Text.splitFirst mark back).2) := by
  induction front with
  | nil => simp
  | cons c cs ih =>
    rw [List.cons_append, splitFirst_cons, splitFirst_cons, ih]
    by_cases here : c = mark
    · simp [here]
    · by_cases later : mark ∈ cs <;> simp [here, later, Ne.symm here]

theorem splitFirst_of_not_mem {mark : Char} {cs : List Char} (h : mark ∉ cs) :
    Text.splitFirst mark cs = (cs, none) := by
  have outside := splitFirst_append mark cs []
  rw [List.append_nil, if_neg h] at outside
  exact outside.trans (by rw [show Text.splitFirst mark [] = ([], none) from rfl, List.append_nil])

theorem splitFirst_isSome {mark : Char} {cs : List Char} (h : mark ∈ cs) :
    (Text.splitFirst mark cs).2.isSome = true := by
  induction cs with
  | nil => cases h
  | cons c cs ih =>
    rw [splitFirst_cons]
    split <;> rename_i other
    · rfl
    · exact ih ((List.mem_cons.1 h).resolve_left (Ne.symm other))

def cleanEnd (cs : List Char) : List Char :=
  (cs.reverse.dropWhile fun c => decide (c.toNat ≤ 0x20)).reverse.filter fun c =>
    c != '\t' && c != '\n' && c != '\r'

theorem cleanEnd_append (front back : List Char) :
    cleanEnd (front ++ '/' :: back) =
      (front.filter fun c => c != '\t' && c != '\n' && c != '\r') ++ '/' :: cleanEnd back := by
  rw [cleanEnd, List.reverse_append, List.reverse_cons, List.append_assoc, List.singleton_append,
    dropWhile_stop (by decide)]
  simp [cleanEnd]

theorem cleanAddress_append (front back : List Char) :
    cleanAddress (front ++ '/' :: back) =
      ((front.dropWhile fun c => decide (c.toNat ≤ 0x20)).filter fun c =>
        c != '\t' && c != '\n' && c != '\r') ++ '/' :: cleanEnd back := by
  rw [← cleanEnd_append, cleanAddress, cleanEnd, dropWhile_stop (by decide)]

theorem splitScheme?_append {front back scheme rest : List Char}
    (h : splitScheme? (front ++ '/' :: back) = some (scheme, rest)) :
    ∃ front', rest = front' ++ '/' :: back ∧
      ∀ back', splitScheme? (front ++ '/' :: back') = some (scheme, front' ++ '/' :: back') := by
  have named (back : List Char) : (front ++ '/' :: back).takeWhile isSchemeChar =
      front.takeWhile isSchemeChar := takeWhile_stop (by decide) front back
  have behind (back : List Char) : (front ++ '/' :: back).dropWhile isSchemeChar =
      front.dropWhile isSchemeChar ++ '/' :: back := dropWhile_stop (by decide) front back
  simp only [splitScheme?, named, behind] at h ⊢
  generalize front.takeWhile isSchemeChar = name at h ⊢
  generalize front.dropWhile isSchemeChar = left at h ⊢
  cases name with
  | nil => cases h
  | cons c cs =>
    cases left with
    | nil => simp at h
    | cons d ds =>
      by_cases colon : d = ':'
      · by_cases alpha : c.isAlpha = true
        · simp only [colon, alpha, List.cons_append, if_true, Option.some.injEq, Prod.mk.injEq] at h ⊢
          obtain ⟨rfl, rfl⟩ := h
          exact ⟨ds, rfl, fun _ => ⟨rfl, rfl⟩⟩
        · simp [colon, alpha] at h
      · simp [colon] at h

theorem domain?_nil : Host.domain? [] = none := by decide

theorem read?_nobody {k : SchemeKind} (named : k ≠ .other) {cs : List Char}
    {user : Option (List Char)} (nobody : Text.splitLast '@' cs = (user, [])) (followed : Bool) :
    Authority.read? k cs followed = none := by
  rw [Authority.read?, nobody]
  dsimp only
  rw [if_neg named, Authority.splitPort, domain?_nil]
  split <;> rfl

theorem read?_nil {k : SchemeKind} (named : k ≠ .other) (followed : Bool) :
    Authority.read? k [] followed = none := by
  have nobody : Text.splitLast '@' [] = (none, []) := rfl
  exact read?_nobody named nobody followed

theorem frontAt?_eq (k : SchemeKind) (cs : List Char) (followed : Bool) :
    Url.frontAt? k cs followed =
      (Authority.read? k (cs.takeWhile fun c => !k.isSlash c)
        (followed || cs.dropWhile (fun c => !k.isSlash c) != [])).map fun x =>
          (some x.1, pathBehindHost k (x.2 ++ cs.dropWhile fun c => !k.isSlash c)) := by
  rw [Url.frontAt?]
  dsimp only
  rw [drop_takeWhile]
  cases Authority.read? k _ _ <;> rfl

theorem frontAt?_append {k : SchemeKind} {front more back : List Char} {front' : Url.Front}
    {followed : Bool} (h : Url.frontAt? k (front ++ '/' :: more) followed = some front')
    (followed' : Bool) :
    ∃ path, Url.frontAt? k (front ++ '/' :: back) followed' = some (front'.1, path) := by
  have stop : (!k.isSlash '/') = false := by simp [SchemeKind.isSlash]
  have goes_on (followed : Bool) (back : List Char) :
      (followed || front.dropWhile (fun c => !k.isSlash c) ++ '/' :: back != []) = true := by
    simp
  rw [frontAt?_eq, takeWhile_stop stop, dropWhile_stop stop, goes_on] at h ⊢
  obtain ⟨x, read, rfl⟩ := Option.map_eq_some_iff.1 h
  exact ⟨_, by rw [read]; rfl⟩

theorem read?_threads (port : Nat) (followed : Bool) :
    Authority.read? (.network port) "threads".toList followed =
      Authority.read? (.network port) "threads".toList false := by
  have no_user : Text.splitLast '@' "threads".toList = (none, "threads".toList) := by decide
  rw [Authority.read?, Authority.read?, no_user]
  rfl

theorem front?_append {port : Nat} {front : List Char} {front' : Url.Front}
    (h : Url.front? (.network port) (front ++ '/' :: "threads".toList) false = some front')
    (back : List Char) (followed : Bool) :
    ∃ path, Url.front? (.network port) (front ++ '/' :: ("threads".toList ++ '/' :: back)) followed =
      some (front'.1, path) := by
  let k := SchemeKind.network port
  have from_host (more : List Char) (followed : Bool) :
      Url.front? k (front ++ '/' :: ("threads".toList ++ more)) followed =
        Url.frontAt? k ((front ++ ['/']).dropWhile k.isSlash ++ ("threads".toList ++ more))
          followed := by
    have letter : k.isSlash 't' = false := rfl
    have same : front ++ '/' :: ("threads".toList ++ more) =
        (front ++ ['/']) ++ 't' :: ("hreads".toList ++ more) := by simp
    rw [Url.front?]
    dsimp only [k]
    rw [drop_takeWhile, same, dropWhile_stop letter]
    rfl
  rw [← List.append_nil "threads".toList, from_host] at h
  rw [from_host]
  rw [List.dropWhile_append] at h ⊢
  split at h <;> rename_i only_slashes
  · -- the host is the word itself
    have stop : (!k.isSlash '/') = false := rfl
    have host : "threads".toList.takeWhile (fun c => !k.isSlash c) = "threads".toList := rfl
    have behind : "threads".toList.dropWhile (fun c => !k.isSlash c) = [] := rfl
    have gone : ['/'].dropWhile k.isSlash = [] := rfl
    rw [gone, List.nil_append, List.append_nil, frontAt?_eq, host, behind] at h
    rw [if_pos only_slashes, gone, List.nil_append, frontAt?_eq, takeWhile_stop stop,
      dropWhile_stop stop, host, behind, read?_threads]
    obtain ⟨x, read, rfl⟩ := Option.map_eq_some_iff.1 h
    exact ⟨_, by rw [← read?_threads, read]; rfl⟩
  · rw [if_neg only_slashes]
    have apart (more : List Char) : front.dropWhile k.isSlash ++ ['/'] ++ more =
        front.dropWhile k.isSlash ++ '/' :: more := by simp
    rw [apart] at h ⊢
    exact frontAt?_append h followed

theorem network_of_web {scheme : List Char}
    (h : ["http", "https"].contains (String.ofList scheme) = true) :
    ∃ port, SchemeKind.ofScheme scheme = .network port := by
  rw [List.contains_iff_mem, List.mem_cons, List.mem_singleton] at h
  rcases h with http | https
  · obtain rfl : scheme = "http".toList := by rw [← http, String.toList_ofList]
    exact ⟨80, rfl⟩
  · obtain rfl : scheme = "https".toList := by rw [← https, String.toList_ofList]
    exact ⟨443, rfl⟩

def frontBehind? (k : SchemeKind) (rest : List Char) : Option Url.Front :=
  let (rest, fragment) := Text.splitFirst '#' rest
  let (rest, query) := Text.splitFirst '?' rest
  Url.front? k rest (query.isSome || fragment.isSome)

theorem parse?_eq (text : String) : Url.parse? text =
    (splitScheme? (cleanAddress text.toList)).bind fun s =>
      let k := SchemeKind.ofScheme s.1
      let f := Text.splitFirst '#' s.2
      let q := Text.splitFirst '?' f.1
      (Url.front? k q.1 (q.2.isSome || f.2.isSome)).map fun front =>
        ⟨s.1, front.1, front.2, q.2.map (percentEncode k.keepInQuery),
          f.2.map (percentEncode keepInFragment)⟩ := by
  rw [Url.parse?]
  rcases splitScheme? (cleanAddress text.toList) with _ | ⟨scheme, rest⟩
  · rfl
  · dsimp only [Option.bind_eq_bind, Option.bind_some]
    cases Url.front? _ _ _ <;> rfl

theorem map_parse? (text : String) :
    (Url.parse? text).map (fun u => (u.scheme, u.authority)) =
      (splitScheme? (cleanAddress text.toList)).bind fun s =>
        (frontBehind? (.ofScheme s.1) s.2).map fun front => (s.1, front.1) := by
  rw [parse?_eq, Option.map_bind]
  refine congrArg _ (funext fun s => ?_)
  exact Option.map_map _ _ _

theorem frontBehind?_append {port : Nat} {front : List Char} {front' : Url.Front}
    (h : frontBehind? (.network port) (front ++ '/' :: "threads".toList) = some front')
    (back : List Char) :
    ∃ path, frontBehind? (.network port) (front ++ '/' :: ("threads".toList ++ '/' :: back)) =
      some (front'.1, path) := by
  let base := front ++ '/' :: "threads".toList
  have longer : front ++ '/' :: ("threads".toList ++ '/' :: back) = base ++ '/' :: back := by
    simp [base]
  rw [longer]
  change frontBehind? _ base = _ at h
  rw [frontBehind?] at h ⊢
  dsimp only at h ⊢
  rw [splitFirst_append]
  by_cases fragment : '#' ∈ base
  · rw [if_pos fragment]
    exact ⟨front'.2, by simpa using h⟩
  · rw [splitFirst_of_not_mem fragment] at h
    rw [if_neg fragment]
    dsimp only at h ⊢
    rw [splitFirst_append]
    by_cases query : '?' ∈ base
    · rw [if_pos query]
      have asked := splitFirst_isSome query
      rw [asked] at h
      exact ⟨front'.2, by simpa [asked] using h⟩
    · rw [splitFirst_of_not_mem query] at h
      rw [if_neg query, splitFirst_cons, if_neg (by decide), splitFirst_cons, if_neg (by decide)]
      dsimp only [base] at h ⊢
      rw [List.append_assoc, List.cons_append]
      exact front?_append h _ _

/-- What stands before a longer path is read as before. -/
theorem parse?_append {base : String} {u : Url} (h : Url.parse? (base ++ "/" ++ "threads") = some u)
    (web : ["http", "https"].contains (String.ofList u.scheme) = true) (id : String) :
    ∃ u', Url.parse? (base ++ "/" ++ ("threads/" ++ id)) = some u' ∧ u'.scheme = u.scheme ∧
      u'.authority = u.authority := by
  have short : (base ++ "/" ++ "threads").toList = base.toList ++ '/' :: "threads".toList := by simp
  have long : (base ++ "/" ++ ("threads/" ++ id)).toList =
      base.toList ++ '/' :: ("threads".toList ++ '/' :: id.toList) := by simp
  have word : cleanEnd "threads".toList = "threads".toList := rfl
  have whole : (Url.parse? (base ++ "/" ++ "threads")).map (fun u => (u.scheme, u.authority)) =
      some (u.scheme, u.authority) := by rw [h]; rfl
  rw [map_parse?, short, cleanAddress_append, word] at whole
  obtain ⟨⟨scheme, rest⟩, named, whole⟩ := Option.bind_eq_some_iff.1 whole
  obtain ⟨front, read, same⟩ := Option.map_eq_some_iff.1 whole
  obtain ⟨rfl, authority⟩ := Prod.mk.inj same
  obtain ⟨port, network⟩ := network_of_web web
  obtain ⟨front', rfl, renamed⟩ := splitScheme?_append named
  dsimp only at read
  rw [network] at read
  obtain ⟨path, reread⟩ := frontBehind?_append read (cleanEnd id.toList)
  have longer : (Url.parse? (base ++ "/" ++ ("threads/" ++ id))).map
      (fun u => (u.scheme, u.authority)) = some (u.scheme, u.authority) := by
    have kept : "threads".toList.filter (fun c => c != '\t' && c != '\n' && c != '\r') =
        "threads".toList := rfl
    rw [map_parse?, long, cleanAddress_append, cleanEnd_append, kept, renamed, Option.bind_some]
    dsimp only
    rw [network, reread, Option.map_some, authority]
  obtain ⟨u', found, same⟩ := Option.map_eq_some_iff.1 longer
  obtain ⟨scheme, authority⟩ := Prod.mk.inj same
  exact ⟨u', found, scheme, authority⟩

def Draft.sentTo (d : Draft) (u : Url) : Url :=
  d.fields.foldl (fun u f => u.addField f.1 f.2)
    (if u.credentials?.isSome then u.anonymous else u)

theorem build_of_parse {d : Draft} {u : Url} (h : Url.parse? d.address = some u) :
    d.build =
      if !u.hasHost then .error (.unsendable u.text)
      else if !d.headers.all (fun h => isHeaderValue h.2) then .error .unbuildable
      else if !(d.sentTo u).isSendable then .error (.unsendable (d.sentTo u).text)
      else
        .ok {
          method := d.method
          url := d.sentTo u
          headers :=
            (u.credentials?.map fun c => basicAuthorization c.1 c.2).toList ++ d.headers ++
              if d.body.isSome then [("content-type", "application/json")] else []
          body := d.body } := by
  rw [Draft.build, h]
  rfl

theorem foldl_addField (fields : List (String × String)) (u : Url) :
    (fields.foldl (fun u f => u.addField f.1 f.2) u).scheme = u.scheme ∧
      (fields.foldl (fun u f => u.addField f.1 f.2) u).authority = u.authority := by
  induction fields generalizing u with
  | nil => exact ⟨rfl, rfl⟩
  | cons f rest ih => exact ih (u.addField f.1 f.2)

theorem scheme_sentTo (d : Draft) (u : Url) : (d.sentTo u).scheme = u.scheme := by
  rw [Draft.sentTo, (foldl_addField _ _).1]
  split <;> rfl

theorem authority_sentTo {u u' : Url} (authority : u'.authority = u.authority) (d d' : Draft) :
    (d'.sentTo u').authority = (d.sentTo u).authority := by
  have credentials : u'.credentials? = u.credentials? := by
    rw [Url.credentials?, Url.credentials?, authority]
  rw [Draft.sentTo, Draft.sentTo, (foldl_addField _ _).2, (foldl_addField _ _).2, credentials]
  split
  · rw [Url.anonymous, Url.anonymous, authority]
  · exact authority

theorem Url.text_addField {u : Url} (query : u.query = none) (fragment : u.fragment = none)
    (name value : String) :
    (u.addField name value).text = u.text ++ String.ofList ('?' :: formField name value) := by
  rcases u with ⟨scheme, authority, path, _, _⟩
  obtain rfl := query
  obtain rfl := fragment
  simp [← String.toList_inj, text, target, origin, addField]

theorem checked_of_build {d : Draft} {q : Request} (h : d.build = .ok q) :
    ∃ u, Url.parse? d.address = some u ∧ u.hasHost = true ∧
      d.headers.all (fun h => isHeaderValue h.2) = true ∧ (d.sentTo u).isSendable = true := by
  cases found : Url.parse? d.address with
  | none =>
    rw [Draft.build, found] at h
    cases h
  | some u =>
    rw [build_of_parse found] at h
    cases host : u.hasHost with
    | false => simp [host] at h
    | true =>
      cases headers : d.headers.all fun h => isHeaderValue h.2 with
      | false => simp [host, headers] at h
      | true =>
        cases sendable : (d.sentTo u).isSendable with
        | false => simp [host, headers, sendable] at h
        | true => exact ⟨u, rfl, host, rfl, sendable⟩

theorem build_of_place {d d' : Draft} {u u' : Url} (host : u.hasHost = true)
    (headers : d.headers.all (fun h => isHeaderValue h.2) = true)
    (sendable : (d.sentTo u).isSendable = true) (found : Url.parse? d'.address = some u')
    (scheme : u'.scheme = u.scheme) (authority : u'.authority = u.authority)
    (same_headers : d'.headers = d.headers) :
    (∃ q', d'.build = .ok q') ∨
      ∃ text, d'.build = .error (.unsendable text) ∧ Url.maxLength < text.utf8ByteSize := by
  have same_host : u'.hasHost = true := by rw [Url.hasHost, authority, ← Url.hasHost, host]
  rw [Url.isSendable, Bool.and_eq_true] at sendable
  have short_enough : (d'.sentTo u').isSendable =
      decide ((d'.sentTo u').text.utf8ByteSize ≤ Url.maxLength) := by
    rw [Url.isSendable, scheme_sentTo, scheme, ← scheme_sentTo d, authority_sentTo authority d,
      sendable.1, Bool.true_and]
  rw [build_of_parse found, same_headers, same_host, headers, short_enough]
  by_cases short : (d'.sentTo u').text.utf8ByteSize ≤ Url.maxLength
  · exact .inl ⟨_, by simp [short]; rfl⟩
  · exact .inr ⟨(d'.sentTo u').text, by simp [short], Nat.lt_of_not_le short⟩

end ChatAgents.Http

namespace ChatAgents.Hosting

/-- A thread that was asked for can be deleted, but for one whose address is too long. -/
theorem deleteThread_build {c : Config} {q : Http.Request}
    (built : (Operation.createThread.draft c).build = .ok q) (id : String) :
    (∃ q', ((Operation.deleteThread id).draft c).build = .ok q') ∨
      ∃ text, ((Operation.deleteThread id).draft c).build = .error (.unsendable text) ∧
        Http.Url.maxLength < text.utf8ByteSize := by
  obtain ⟨u, found, host, headers, sendable⟩ := Http.checked_of_build built
  have web : ["http", "https"].contains (String.ofList u.scheme) = true := by
    have whole := sendable
    rw [Http.Url.isSendable, Bool.and_eq_true, Bool.and_eq_true, Http.scheme_sentTo] at whole
    exact whole.1.1
  obtain ⟨u', found', scheme, authority⟩ := Http.parse?_append found web id
  exact Http.build_of_place host headers sendable found' scheme authority rfl

end ChatAgents.Hosting
