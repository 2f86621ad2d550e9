import ChatAgents.Model.ChatCompletions
import ChatAgents.Proofs.Addresses
import ChatAgents.Proofs.RefusedHosts
import ChatAgents.Proofs.SettledPrograms
import ChatAgents.Proofs.TextEnds
set_option autoImplicit false

namespace ChatAgents

namespace Http

theorem fst_splitFirst (mark : Char) (cs : List Char) :
    (Text.splitFirst mark cs).1 = cs.takeWhile (· != mark) := by
  induction cs with
  | nil => rfl
  | cons c cs ih =>
    rw [splitFirst_cons]
    by_cases here : c = mark
    · rw [if_pos here, List.takeWhile_cons_of_neg (by simpa using here)]
    · rw [if_neg here, List.takeWhile_cons_of_pos (by simpa using here), ih]

theorem takeWhile_takeWhile_and (p q : Char → Bool) (cs : List Char) :
    (cs.takeWhile q).takeWhile p = cs.takeWhile fun c => p c && q c := by
  rw [List.takeWhile_takeWhile]
  simp only [Bool.decide_and, Bool.decide_eq_true]

theorem dropWhile_takeWhile {p q : Char → Bool} (within : ∀ c, q c = true → p c = true)
    (cs : List Char) : (cs.takeWhile p).dropWhile q = (cs.dropWhile q).takeWhile p := by
  induction cs with
  | nil => rfl
  | cons c cs ih =>
    by_cases dropped : q c = true
    · rw [List.takeWhile_cons_of_pos (within c dropped), List.dropWhile_cons_of_pos dropped,
        List.dropWhile_cons_of_pos dropped, ih]
    · rw [List.dropWhile_cons_of_neg dropped]
      by_cases taken : p c = true
      · rw [List.takeWhile_cons_of_pos taken, List.dropWhile_cons_of_neg dropped]
      · rw [List.takeWhile_cons_of_neg taken]
        rfl

/-- A character that may stand in the name of a place: the path, a query and a fragment begin with
others. -/
def inPlace (k : SchemeKind) (c : Char) : Bool := !k.isSlash c && (c != '?' && c != '#')

/-- The name of the place that is asked, behind the slashes. -/
def place (k : SchemeKind) (cs : List Char) : List Char :=
  (cs.dropWhile k.isSlash).takeWhile (inPlace k)

theorem read?_followed {k : SchemeKind} (named : k ≠ .other) (cs : List Char) (followed : Bool) :
    Authority.read? k cs followed = Authority.read? k cs false := by
  cases split : Text.splitLast '@' cs with
  | mk user host =>
    cases host with
    | nil => rw [read?_nobody named split, read?_nobody named split]
    | cons c host => simp [Authority.read?, split]

/-- Who is asked is read from the place. -/
theorem frontBehind?_eq {k : SchemeKind} {port : Nat} (network : k = .network port)
    (rest : List Char) :
    (frontBehind? k rest).map Prod.fst =
      (Authority.read? k (place k rest) false).map fun x => some x.1 := by
  have named : k ≠ .other := by simp [network]
  have slashes : ∀ c, k.isSlash c = true → (c != '?' && c != '#') = true := by
    intro c slash
    simp only [SchemeKind.isSlash, Bool.or_eq_true, Bool.and_eq_true, beq_iff_eq] at slash
    rcases slash with rfl | ⟨rfl, _⟩ <;> rfl
  have front (cs : List Char) (followed : Bool) : (Url.front? k cs followed).map Prod.fst =
      (Authority.read? k ((cs.dropWhile k.isSlash).takeWhile fun c => !k.isSlash c) false).map
        fun x => some x.1 := by
    subst network
    rw [Url.front?, drop_takeWhile, frontAt?_eq, read?_followed named, Option.map_map]
    rfl
  have cut : (Text.splitFirst '?' (Text.splitFirst '#' rest).1).1 =
      rest.takeWhile fun c => c != '?' && c != '#' := by
    rw [fst_splitFirst, fst_splitFirst, takeWhile_takeWhile_and]
  change (Url.front? k (Text.splitFirst '?' (Text.splitFirst '#' rest).1).1 _).map Prod.fst = _
  rw [front, cut, dropWhile_takeWhile slashes, takeWhile_takeWhile_and]
  rfl

section

variable {k : SchemeKind}

theorem isSlash_slash (k : SchemeKind) : k.isSlash '/' = true := by simp [SchemeKind.isSlash]

theorem inPlace_slash (k : SchemeKind) : inPlace k '/' = false := by
  rw [inPlace, isSlash_slash]
  rfl

theorem place_cons_slash (cs : List Char) : place k ('/' :: cs) = place k cs := by
  rw [place, List.dropWhile_cons_of_pos (isSlash_slash k), place]

theorem not_mem_place {k : SchemeKind} (named : k ≠ .other) (cs : List Char) :
    '\\' ∉ place k cs := by
  intro member
  have inside := List.mem_takeWhile_imp member
  simp [inPlace, SchemeKind.isSlash, named] at inside

theorem place_append {cs back : List Char}
    (apart : (cs ++ back).dropWhile k.isSlash = cs.dropWhile k.isSlash ++ back) :
    place k (cs ++ back) = place k cs ∨
      place k (cs ++ back) = place k cs ++ back.takeWhile (inPlace k) := by
  rw [place, apart, List.takeWhile_append, place]
  split
  · next whole => exact .inr (by rw [(List.takeWhile_prefix _).eq_of_length whole])
  · exact .inl rfl

theorem place_path {cs : List Char} (there : place k cs ≠ []) (path : List Char) :
    place k (cs ++ '/' :: path) = place k cs := by
  have begun : ¬ (cs.dropWhile k.isSlash).isEmpty = true := by
    rw [List.isEmpty_iff]
    intro nothing
    rw [place, nothing] at there
    exact there rfl
  have apart : (cs ++ '/' :: path).dropWhile k.isSlash = cs.dropWhile k.isSlash ++ '/' :: path := by
    rw [List.dropWhile_append, if_neg begun]
  have ended : ('/' :: path).takeWhile (inPlace k) = [] :=
    List.takeWhile_cons_of_neg (by rw [inPlace_slash]; simp)
  rcases place_append apart with same | longer
  · exact same
  · rw [longer, ended, List.append_nil]

theorem slashes_or_nowhere {cs : List Char} (nowhere : place k cs = []) :
    cs.dropWhile k.isSlash = [] ∨ ∀ back, place k (cs ++ back) = [] := by
  cases rest : cs.dropWhile k.isSlash with
  | nil => exact .inl rfl
  | cons c ds =>
    have ended : ¬ inPlace k c = true := by
      intro inside
      rw [place, rest, List.takeWhile_cons_of_pos inside] at nowhere
      cases nowhere
    right
    intro back
    rw [place, List.dropWhile_append, rest, if_neg (by simp), List.cons_append,
      List.takeWhile_cons_of_neg ended]

theorem place_slashes {cs : List Char} (nowhere : place k cs = []) (n : Nat) :
    place k (cs ++ List.replicate n '/') = [] := by
  rcases slashes_or_nowhere nowhere with slashes | ended
  · have dropped : (List.replicate n '/').dropWhile k.isSlash = [] := by
      rw [List.dropWhile_eq_nil_iff]
      intro c member
      rw [List.eq_of_mem_replicate member]
      exact isSlash_slash k
    rw [place, List.dropWhile_append, slashes, if_pos (by rfl), dropped]
    rfl
  · exact ended _

theorem isSlash_outer {c : Char} (outer : IsOuter c) : k.isSlash c = false := by
  have others : (c == '/') = false ∧ (c == '\\') = false :=
    outer.of_all (p := fun c => (c == '/') = false ∧ (c == '\\') = false) (by decide)
  rw [SchemeKind.isSlash, others.1, others.2]
  rfl

theorem inPlace_outer {c : Char} (outer : IsOuter c) : inPlace k c = true := by
  have others : (c != '?' && c != '#') = true :=
    outer.of_all (p := fun c => (c != '?' && c != '#') = true) (by decide)
  rw [inPlace, isSlash_outer outer, others]
  rfl

/-- Control characters and spaces leave a place that has ended as it is, and otherwise make its
name one of nobody. -/
theorem place_outer {k : SchemeKind} (named : k ≠ .other) (cs : List Char) {tail : List Char}
    (outer : ∀ c ∈ tail, IsOuter c) :
    place k (cs ++ tail) = place k cs ∨
      tail ≠ [] ∧ place k (cs ++ tail) ≠ [] ∧
        Authority.read? k (place k (cs ++ tail)) false = none := by
  have no_slash : tail.dropWhile k.isSlash = tail := by
    cases tail with
    | nil => rfl
    | cons c tail =>
      refine List.dropWhile_cons_of_neg ?_
      rw [isSlash_outer (outer c List.mem_cons_self)]
      simp
  have apart : (cs ++ tail).dropWhile k.isSlash = cs.dropWhile k.isSlash ++ tail := by
    rw [List.dropWhile_append, no_slash]
    split
    · next nothing => rw [List.isEmpty_iff.1 nothing, List.nil_append]
    · rfl
  have whole : tail.takeWhile (inPlace k) = tail :=
    List.takeWhile_eq_self_iff.2 fun c member => inPlace_outer (outer c member)
  rcases place_append apart with same | longer
  · exact .inl same
  · rcases List.eq_nil_or_concat tail with rfl | ⟨front, last, rfl⟩
    · exact .inl (by rw [List.append_nil])
    · right
      have plain := not_mem_place named (cs ++ front.concat last)
      refine ⟨by simp, by rw [longer, whole]; simp, ?_⟩
      rw [longer, whole, List.concat_eq_append, ← List.append_assoc] at plain ⊢
      exact Authority.read?_outer (outer last (by simp)) named
        (fun member => plain (List.mem_append_left _ member)) false

end

def withoutBreaks (cs : List Char) : List Char :=
  cs.filter fun c => c != '\t' && c != '\n' && c != '\r'

theorem exists_outer_tail (base : List Char) : ∃ tail,
    withoutBreaks base = cleanEnd base ++ tail ∧ (∀ c ∈ tail, IsOuter c) ∧
      (tail ≠ [] → ∃ c ∈ base.getLast?, IsOuter c) := by
  let outer (c : Char) : Bool := c.toNat ≤ 0x20
  obtain ⟨tail, split, all_outer⟩ := Text.exists_tail outer base
  have outer_tail : ∀ c ∈ tail, IsOuter c := fun c member =>
    of_decide_eq_true (p := c.toNat ≤ 0x20) (all_outer c member)
  have clean : cleanEnd base = withoutBreaks (Text.dropTail outer base) := rfl
  refine ⟨withoutBreaks tail, ?_, fun c member => outer_tail c (List.mem_of_mem_filter member), ?_⟩
  · rw [clean, withoutBreaks, withoutBreaks, withoutBreaks, ← List.filter_append, ← split]
  · intro counts
    have some_tail : tail ≠ [] := by
      rintro rfl
      exact counts rfl
    refine ⟨tail.getLast some_tail, ?_, outer_tail _ (List.getLast_mem some_tail)⟩
    rw [split, List.getLast?_append, List.getLast?_eq_some_getLast some_tail]
    rfl

theorem cleanEnd_slashes (base : List Char) (n : Nat) :
    cleanEnd (base ++ List.replicate (n + 1) '/') =
      withoutBreaks base ++ List.replicate (n + 1) '/' := by
  have stays : cleanEnd (List.replicate n '/') = List.replicate n '/' := by
    have ends : Text.dropTail (fun c => decide (c.toNat ≤ 0x20)) (List.replicate n '/') =
        List.replicate n '/' := by
      rw [Text.dropTail_eq_self_iff]
      intro c last
      rw [List.eq_of_mem_replicate (List.mem_of_getLast? last)]
      rfl
    change withoutBreaks (Text.dropTail _ (List.replicate n '/')) = _
    rw [ends]
    exact List.filter_eq_self.2 fun c member => by rw [List.eq_of_mem_replicate member]; rfl
  rw [List.replicate_succ, cleanEnd_append, stays]
  rfl

section

variable {k : SchemeKind} (named : k ≠ .other) {base : List Char}
include named

variable (base) in
/-- Slashes behind a base leave its place as it is. Without them control characters at the end do
not count, and where they count they make the place one of nobody. -/
theorem place_withoutBreaks (n : Nat) :
    place k (withoutBreaks base) = place k (cleanEnd (base ++ List.replicate n '/')) ∨
      place k (withoutBreaks base) ≠ [] ∧
        Authority.read? k (place k (withoutBreaks base)) false = none ∧
        ∃ c ∈ (base ++ List.replicate n '/').getLast?, IsOuter c := by
  cases n with
  | zero =>
    obtain ⟨tail, whole, outer, last⟩ := exists_outer_tail base
    have ends := place_outer named (cleanEnd base) outer
    rw [← whole] at ends
    rw [List.replicate_zero, List.append_nil]
    exact ends.imp_right fun nobody => ⟨nobody.2.1, nobody.2.2, last nobody.1⟩
  | succ n =>
    left
    rw [cleanEnd_slashes]
    by_cases there : place k (withoutBreaks base) = []
    · rw [there, place_slashes there]
    · rw [List.replicate_succ, place_path there]

theorem place_base {n : Nat} {x : Authority × List Char}
    (asked : Authority.read? k (place k (cleanEnd (base ++ List.replicate n '/'))) false = some x) :
    place k (cleanEnd base) = place k (cleanEnd (base ++ List.replicate n '/')) := by
  cases n with
  | zero => rw [List.replicate_zero, List.append_nil]
  | succ n =>
    obtain ⟨tail, whole, outer, _⟩ := exists_outer_tail base
    have ends := place_outer named (cleanEnd base) outer
    have slashes := place_withoutBreaks named base (n + 1)
    rw [← whole] at ends
    rcases slashes with same | ⟨_, _, c, last, no_slash⟩
    · rcases ends with short | ⟨_, _, nobody⟩
      · rw [← short, same]
      · rw [← same, nobody] at asked
        cases asked
    · rw [List.replicate_succ', ← List.append_assoc, List.getLast?_concat] at last
      obtain rfl := Option.some.inj last
      exact absurd no_slash (by decide)

omit named in
theorem place_behind_base (there : place k (withoutBreaks base) ≠ []) (path : List Char) :
    place k (cleanEnd (base ++ '/' :: path)) = place k (withoutBreaks base) := by
  rw [cleanEnd_append]
  exact place_path there (cleanEnd path)

theorem slashes_of_asked (nowhere : place k (withoutBreaks base) = []) {path : List Char}
    {x : Authority × List Char}
    (asked : Authority.read? k (place k (cleanEnd (base ++ '/' :: path))) false = some x) :
    ∀ c ∈ base, k.isSlash c = true ∨ c ∈ ['\t', '\n', '\r'] := by
  have only_slashes : (withoutBreaks base).dropWhile k.isSlash = [] := by
    rcases slashes_or_nowhere nowhere with slashes | ended
    · exact slashes
    · have still_nowhere : place k (cleanEnd (base ++ '/' :: path)) = [] := by
        rw [cleanEnd_append]
        exact ended _
      rw [still_nowhere, read?_nil named] at asked
      cases asked
  intro c member
  by_cases counts : c ∈ ['\t', '\n', '\r']
  · exact .inr counts
  · have kept : c ∈ withoutBreaks base := by
      refine List.mem_filter.2 ⟨member, ?_⟩
      simpa [and_assoc] using counts
    exact .inl (List.dropWhile_eq_nil_iff.1 only_slashes c kept)

end

inductive IsWeb : List Char → Prop
  | http : IsWeb "http".toList
  | https : IsWeb "https".toList

theorem map_parse?_web {scheme : List Char} (web : IsWeb scheme) {text : String}
    {rest : List Char} (written : text.toList = scheme ++ ':' :: '/' :: '/' :: rest) :
    (Url.parse? text).map (fun u => (u.scheme, u.authority)) =
      (Authority.read? (.ofScheme scheme) (place (.ofScheme scheme) (cleanEnd rest)) false).map
        fun x => (scheme, some x.1) := by
  have clean : cleanAddress text.toList = scheme ++ ':' :: '/' :: '/' :: cleanEnd rest := by
    have split : text.toList = (scheme ++ [':', '/']) ++ '/' :: rest := by rw [written]; simp
    rw [split, cleanAddress_append]
    cases web <;> rfl
  have named : splitScheme? (scheme ++ ':' :: '/' :: '/' :: cleanEnd rest) =
      some (scheme, '/' :: '/' :: cleanEnd rest) := by
    cases web <;> rfl
  have network : ∃ port, SchemeKind.ofScheme scheme = .network port := by
    cases web
    · exact ⟨80, rfl⟩
    · exact ⟨443, rfl⟩
  obtain ⟨port, network⟩ := network
  have asked := frontBehind?_eq network ('/' :: '/' :: cleanEnd rest)
  rw [place_cons_slash, place_cons_slash] at asked
  rw [map_parse?, clean, named, Option.bind_some]
  calc (frontBehind? (.ofScheme scheme) ('/' :: '/' :: cleanEnd rest)).map
        (fun front => (scheme, front.1))
      = ((frontBehind? (.ofScheme scheme) ('/' :: '/' :: cleanEnd rest)).map Prod.fst).map
          (scheme, ·) := by rw [Option.map_map]; rfl
    _ = _ := by rw [asked, Option.map_map]; rfl

theorem parse?_of_place {scheme : List Char} (web : IsWeb scheme) {text text' : String}
    {rest rest' : List Char} (written : text.toList = scheme ++ ':' :: '/' :: '/' :: rest)
    (written' : text'.toList = scheme ++ ':' :: '/' :: '/' :: rest')
    (same : place (.ofScheme scheme) (cleanEnd rest') = place (.ofScheme scheme) (cleanEnd rest))
    {u : Url} (read : Url.parse? text = some u) :
    ∃ w, Url.parse? text' = some w ∧ w.scheme = u.scheme ∧ w.authority = u.authority := by
  have asks := map_parse?_web web written
  have asks' := map_parse?_web web written'
  rw [same, ← asks, read] at asks'
  obtain ⟨w, found, same_server⟩ := Option.map_eq_some_iff.1 asks'
  exact ⟨w, found, Prod.mk.inj same_server⟩

theorem read?_of_parse? {scheme : List Char} (web : IsWeb scheme) {text : String}
    {rest : List Char} (written : text.toList = scheme ++ ':' :: '/' :: '/' :: rest) {u : Url}
    (read : Url.parse? text = some u) :
    ∃ x, Authority.read? (.ofScheme scheme) (place (.ofScheme scheme) (cleanEnd rest)) false =
      some x := by
  have asks := map_parse?_web web written
  rw [read] at asks
  obtain ⟨x, asked, _⟩ := Option.map_eq_some_iff.1 asks.symm
  exact ⟨x, asked⟩

theorem parse?_eq_none {scheme : List Char} (web : IsWeb scheme) {text : String}
    {rest : List Char} (written : text.toList = scheme ++ ':' :: '/' :: '/' :: rest)
    (nobody : Authority.read? (.ofScheme scheme) (place (.ofScheme scheme) (cleanEnd rest)) false =
      none) : Url.parse? text = none := by
  have asks := map_parse?_web web written
  rwa [nobody, Option.map_none, Option.map_eq_none_iff] at asks

theorem ofScheme_ne_other {scheme : List Char} (web : IsWeb scheme) :
    SchemeKind.ofScheme scheme ≠ .other := by
  cases web <;> decide

/-- Nothing that could name a server stands behind the scheme: only slashes and backslashes, with
line breaks and tabs, which do not count. -/
def NamesNobody (text : String) : Prop :=
  ∃ scheme rest, IsWeb scheme ∧ text.toList = scheme ++ ':' :: '/' :: '/' :: rest ∧
    ∀ c ∈ rest, c ∈ ['/', '\\', '\t', '\n', '\r']

section

variable {scheme : List Char} (web : IsWeb scheme) {base : List Char} {n : Nat}
  {configured short : String}
  (written : configured.toList = scheme ++ ':' :: '/' :: '/' :: (base ++ List.replicate n '/'))
  (shortened : short.toList = scheme ++ ':' :: '/' :: '/' :: base)
include web written shortened

/-- Without the slashes at its end an address asks the same server. -/
theorem parse?_base {u : Url} (read : Url.parse? configured = some u) :
    ∃ w, Url.parse? short = some w ∧ w.scheme = u.scheme ∧ w.authority = u.authority := by
  obtain ⟨x, asked⟩ := read?_of_parse? web written read
  exact parse?_of_place web written shortened (place_base (ofScheme_ne_other web) asked) read

/-- Whoever is asked behind a base is the server that the base asks with slashes at its end, unless
the base names nobody. -/
theorem parse?_behind_base {path : String} {w : Url}
    (found : Url.parse? (short ++ "/" ++ path) = some w) :
    (∃ u, Url.parse? configured = some u ∧ w.scheme = u.scheme ∧ w.authority = u.authority) ∨
      Url.parse? configured = none ∧ NamesNobody configured := by
  have named := ofScheme_ne_other web
  have goes_on : (short ++ "/" ++ path).toList =
      scheme ++ ':' :: '/' :: '/' :: (base ++ '/' :: path.toList) := by simp [shortened]
  obtain ⟨x, asked⟩ := read?_of_parse? web goes_on found
  by_cases there : place (.ofScheme scheme) (withoutBreaks base) = []
  · right
    have nowhere : place (.ofScheme scheme) (cleanEnd (base ++ List.replicate n '/')) = [] := by
      rcases place_withoutBreaks named base n with same | somewhere
      · rw [← same, there]
      · exact absurd there somewhere.1
    have nobody := parse?_eq_none web written (by rw [nowhere, read?_nil named])
    refine ⟨nobody, scheme, _, web, written, ?_⟩
    intro c member
    rcases List.mem_append.1 member with inside | behind
    · have slash := slashes_of_asked named there asked c inside
      simp only [SchemeKind.isSlash, Bool.or_eq_true, Bool.and_eq_true, beq_iff_eq] at slash
      simp only [List.mem_cons] at slash ⊢
      rcases slash with (rfl | ⟨rfl, _⟩) | breaks
      · exact .inl rfl
      · exact .inr (.inl rfl)
      · exact .inr (.inr breaks)
    · rw [List.eq_of_mem_replicate behind]
      exact List.mem_cons_self
  · left
    have behind := place_behind_base there path.toList
    rcases place_withoutBreaks named base n with same | ⟨_, nobody, _⟩
    · obtain ⟨u, read, same_scheme, same_authority⟩ :=
        parse?_of_place web goes_on written (by rw [behind, same]) found
      exact ⟨u, read, same_scheme.symm, same_authority.symm⟩
    · rw [behind, nobody] at asked
      cases asked

theorem exists_parse?_behind_base {u : Url} (read : Url.parse? configured = some u)
    (plain : ∀ c ∈ configured.toList.getLast?, ¬ IsOuter c) (path : String) :
    ∃ w, Url.parse? (short ++ "/" ++ path) = some w := by
  have named := ofScheme_ne_other web
  have goes_on : (short ++ "/" ++ path).toList =
      scheme ++ ':' :: '/' :: '/' :: (base ++ '/' :: path.toList) := by simp [shortened]
  obtain ⟨x, asked⟩ := read?_of_parse? web written read
  rcases place_withoutBreaks named base n with same | ⟨_, _, c, last, outer⟩
  · have there : place (.ofScheme scheme) (withoutBreaks base) ≠ [] := by
      intro nowhere
      rw [← same, nowhere, read?_nil named] at asked
      cases asked
    have behind := (place_behind_base there path.toList).trans same
    obtain ⟨w, found, _⟩ := parse?_of_place web written goes_on behind read
    exact ⟨w, found⟩
  · have ends : configured.toList =
        (scheme ++ [':', '/', '/']) ++ (base ++ List.replicate n '/') := by simp [written]
    refine absurd outer (plain c ?_)
    rw [ends, List.getLast?_append, Option.mem_def.1 last]
    rfl

end

theorem parse?_slashes {scheme : List Char} (web : IsWeb scheme) {text : String} {n : Nat}
    (written : text.toList = scheme ++ ':' :: '/' :: '/' :: List.replicate n '/') :
    Url.parse? text = none := by
  have nowhere : place (.ofScheme scheme) (cleanEnd (List.replicate n '/')) = [] := by
    cases n with
    | zero => rfl
    | succ n =>
      rw [← List.nil_append (List.replicate (n + 1) '/'), cleanEnd_slashes]
      exact place_slashes rfl (n + 1)
  exact parse?_eq_none web written (by rw [nowhere, read?_nil (ofScheme_ne_other web)])

end Http

theorem Text.dropTrailingSlashes_eq_self_iff {t : String} :
    dropTrailingSlashes t = t ↔ t.toList.getLast? ≠ some '/' := by
  rw [← String.toList_inj, toList_dropTrailingSlashes, dropTail_eq_self_iff]
  constructor
  · intro stays last
    cases stays '/' last
  · intro other c last
    rw [beq_eq_false_iff_ne]
    rintro rfl
    exact other last

namespace Settings

open Http (IsWeb)

theorem hasHttpScheme_iff (v : String) : hasHttpScheme v = true ↔
    ∃ scheme rest, IsWeb scheme ∧ v.toList = scheme ++ ':' :: '/' :: '/' :: rest := by
  have begins (p : String) : p.isPrefixOf v = true ↔ p.toList <+: v.toList := by
    simp [String.isPrefixOf]
  rw [hasHttpScheme, Bool.or_eq_true, begins, begins]
  constructor
  · rintro (⟨rest, https⟩ | ⟨rest, http⟩)
    · refine ⟨_, rest, .https, ?_⟩
      rw [← https]
      simp
    · refine ⟨_, rest, .http, ?_⟩
      rw [← http]
      simp
  · rintro ⟨scheme, rest, web, written⟩
    rw [written]
    cases web with
    | http => exact .inr ⟨rest, rfl⟩
    | https => exact .inl ⟨rest, rfl⟩

theorem dropTrailingSlashes_web {scheme rest : List Char} {v : String}
    (written : v.toList = scheme ++ ':' :: '/' :: '/' :: rest) :
    (∃ n, rest = List.replicate n '/') ∧
        (Text.dropTrailingSlashes v).toList = scheme ++ [':'] ∨
      ∃ base n, rest = base ++ List.replicate n '/' ∧
        (Text.dropTrailingSlashes v).toList = scheme ++ ':' :: '/' :: '/' :: base := by
  obtain ⟨n, split⟩ := Text.exists_replicate '/' rest
  rw [Text.toList_dropTrailingSlashes, written]
  by_cases nothing : Text.dropTail (· == '/') rest = []
  · left
    rw [nothing, List.nil_append] at split
    have dropped : ∀ c ∈ '/' :: '/' :: rest, (c == '/') = true := by
      rw [split, ← List.replicate_succ, ← List.replicate_succ]
      intro c member
      rw [List.eq_of_mem_replicate member]
      rfl
    have kept : Text.dropTail (· == '/') (scheme ++ [':']) = scheme ++ [':'] := by
      rw [Text.dropTail_concat]
      rfl
    refine ⟨⟨n, split⟩, ?_⟩
    rw [← kept, ← Text.dropTail_of_all dropped (scheme ++ [':'])]
    simp
  · right
    refine ⟨_, n, split, ?_⟩
    have split_front (cs : List Char) :
        scheme ++ ':' :: '/' :: '/' :: cs = (scheme ++ [':', '/', '/']) ++ cs := by simp
    rw [split_front rest, split_front (Text.dropTail (· == '/') rest),
      Text.dropTail_append_of_ne_nil nothing]

theorem url_eq_ok_iff {s : Settings} {key u : String} : s.url key = .ok u ↔
    hasHttpScheme (s.value key) = true ∧ Text.dropTrailingSlashes (s.value key) = u := by
  rw [url_eq, behind_cons]
  by_cases met : (Demand.url key).Met s
  · rw [if_pos met, behind_met (by simp)]
    simp [met.2, address]
  · have no_scheme : ¬ hasHttpScheme (s.value key) = true := by
      intro http
      refine met ⟨?_, http⟩
      intro empty
      rw [empty] at http
      exact absurd http (by decide)
    simp [if_neg met, no_scheme]

theorem trim_value (s : Settings) (key : String) : Text.trim (s.value key) = s.value key := by
  rw [value]
  cases s.raw? key with
  | none => rfl
  | some raw => exact Text.trim_trim raw

theorem hasHttpScheme_resolved {v : String} (web : hasHttpScheme v = true) :
    hasHttpScheme (Text.dropTrailingSlashes v) = true ↔
      Text.dropTrailingSlashes v ≠ "http:" ∧ Text.dropTrailingSlashes v ≠ "https:" := by
  constructor
  · intro still
    constructor
    · intro lost
      rw [lost] at still
      exact absurd still (by decide)
    · intro lost
      rw [lost] at still
      exact absurd still (by decide)
  · rintro ⟨not_http, not_https⟩
    obtain ⟨scheme, rest, named, written⟩ := (hasHttpScheme_iff v).1 web
    rcases dropTrailingSlashes_web written with ⟨_, lost⟩ | ⟨base, n, _, kept⟩
    · cases named with
      | http => exact absurd (String.toList_inj.1 (lost.trans (by simp))) not_http
      | https => exact absurd (String.toList_inj.1 (lost.trans (by simp))) not_https
    · exact (hasHttpScheme_iff _).2 ⟨scheme, base, named, kept⟩

theorem url_of_resolved {s other : Settings} {key name u : String} (resolved : s.url key = .ok u)
    (held : other.raw? name = some u) :
    other.url name = .ok u ↔ hasHttpScheme u = true ∧ Text.trim u = u := by
  obtain ⟨web, rfl⟩ := url_eq_ok_iff.1 resolved
  have reads : other.value name = Text.trim (Text.dropTrailingSlashes (s.value key)) := by
    rw [value, held]
    rfl
  have clean := Text.dropTrailingSlashes_idem (s.value key)
  rw [url_eq_ok_iff, reads]
  generalize Text.dropTrailingSlashes (s.value key) = u at clean
  constructor
  · rintro ⟨web, same⟩
    have shorter : u.toList <+: (Text.trim u).toList := by
      rw [← String.toList_inj, Text.toList_dropTrailingSlashes] at same
      have front := List.rdropWhile_prefix (· == '/') (Text.trim u).toList
      change Text.dropTail (· == '/') (Text.trim u).toList <+: _ at front
      rwa [same] at front
    have trimmed : Text.trim u = u := by
      rw [Text.toList_trim] at shorter
      rw [← String.toList_inj, Text.toList_trim]
      exact (shorter.eq_of_length_le (Text.length_trimChars_le _)).symm
    rw [trimmed] at web
    exact ⟨web, trimmed⟩
  · rintro ⟨web, trimmed⟩
    rw [trimmed]
    exact ⟨web, clean⟩

/-- The addresses of requests to services, with the setting that each is built from. -/
inductive Asks (s : Settings) : String → String → Prop
  | openAi {c : ChatCompletions.Config}
      (resolved : ChatCompletions.Config.openAiFromSettings s = .ok c)
      (given : s.value "OPENAI_BASE_URL" ≠ "") : Asks s "OPENAI_BASE_URL" c.address
  | azure {c : ChatCompletions.Config}
      (resolved : ChatCompletions.Config.azureFromSettings s = .ok c) :
      Asks s "AZURE_OPENAI_ENDPOINT" c.address
  | foundry {c : Hosting.Config} (resolved : Hosting.Config.fromSettings s = .ok c)
      (o : Hosting.Operation) : Asks s "AZURE_FOUNDRY_PROJECT_ENDPOINT" (o.draft c).address

theorem behind_eq_ok_iff {α : Type} {s : Settings} {demands : List Demand} {a b : α} :
    s.behind demands (.ok a) = .ok b ↔ (∀ d ∈ demands, d.Met s) ∧ a = b := by
  by_cases met : ∀ d ∈ demands, d.Met s
  · rw [behind_met met, Except.ok.injEq, and_iff_right met]
  · obtain ⟨_, d, _, _, _, _, failed⟩ := behind_unmet (r := .ok a) met
    simp [failed, met]

theorem url_of_met {s : Settings} {key : String} (met : (Demand.url key).Met s) :
    s.url key = .ok (s.address key) := by
  rw [url_eq, behind_met (by simpa using met)]

open Program (Resolved Backend)

theorem asks_base {s : Settings} {key address : String} (asks : s.Asks key address) :
    ∃ u path, s.url key = .ok u ∧ address = u ++ "/" ++ path := by
  cases asks with
  | @openAi c resolved given =>
    have settled := Backend.openAi_eq s
    rw [resolved] at settled
    obtain ⟨met, same⟩ := behind_eq_ok_iff.1 settled.symm
    refine ⟨s.address "OPENAI_BASE_URL", "chat/completions", url_of_met (met _ ?_), ?_⟩
    · simp [Backend.demands, given]
    · obtain rfl := Resolved.chat.inj same
      simp only [ChatCompletions.Config.address, given, if_false, address,
        Text.dropTrailingSlashes_idem, String.append_assoc]
      rfl
  | @azure c resolved =>
    have settled := Backend.azure_eq s
    rw [resolved] at settled
    obtain ⟨met, same⟩ := behind_eq_ok_iff.1 settled.symm
    refine ⟨s.address "AZURE_OPENAI_ENDPOINT", "openai/deployments/" ++
      s.value "AZURE_OPENAI_DEPLOYMENT_NAME" ++ "/chat/completions?api-version=" ++
        s.valueOr "AZURE_OPENAI_API_VERSION" "2024-10-21", url_of_met (met _ ?_), ?_⟩
    · simp [Backend.demands]
    · obtain rfl := Resolved.chat.inj same
      simp only [ChatCompletions.Config.address, String.append_assoc]
      rfl
  | @foundry c resolved o =>
    rw [Backend.hostingConfig_eq] at resolved
    obtain ⟨met, rfl⟩ := behind_eq_ok_iff.1 resolved
    refine ⟨s.address "AZURE_FOUNDRY_PROJECT_ENDPOINT", o.path, url_of_met (met _ ?_), rfl⟩
    simp [Backend.hostingDemands]

/-- An address of a service, as a setting gives it, loses the slashes at its end and nothing else.
It stays an address of the web unless it is no more than a scheme and slashes, it has no blank at
its end unless there is one before the slashes, and it comes to itself exactly if neither is so.
Every request that is built from it asks the server that the setting names, or the setting names
none. -/
theorem base_addresses (s : Settings) (key : String) :
    (∀ u, s.url key = .ok u →
      hasHttpScheme (s.value key) = true ∧
      (∃ n, (s.value key).toList = u.toList ++ List.replicate n '/') ∧
      u.toList.getLast? ≠ some '/' ∧ (∀ c ∈ u.toList.head?, Text.isBlank c = false) ∧
      (hasHttpScheme u = true ↔ u ≠ "http:" ∧ u ≠ "https:") ∧
      (Text.trim u = u ↔ ∀ c ∈ u.toList.getLast?, Text.isBlank c = false) ∧
      ∀ (other : Settings) (name : String), other.raw? name = some u →
        (other.url name = .ok u ↔ hasHttpScheme u = true ∧ Text.trim u = u)) ∧
    (∀ address, s.Asks key address → ∃ u path, s.url key = .ok u ∧ address = u ++ "/" ++ path) ∧
    ∀ u, s.url key = .ok u →
      (∀ path w, Http.Url.parse? (u ++ "/" ++ path) = some w →
        (∃ server, Http.Url.parse? (s.value key) = some server ∧ w.scheme = server.scheme ∧
          w.authority = server.authority) ∨
        Http.Url.parse? (s.value key) = none ∧ Http.NamesNobody (s.value key)) ∧
      ∀ server, Http.Url.parse? (s.value key) = some server →
        (∃ w, Http.Url.parse? u = some w ∧ w.scheme = server.scheme ∧
          w.authority = server.authority) ∧
        ((∀ c ∈ (s.value key).toList.getLast?, ¬ IsOuter c) →
          ∀ path, ∃ w, Http.Url.parse? (u ++ "/" ++ path) = some w) := by
  refine ⟨?_, fun _ => asks_base, ?_⟩
  · intro u resolved
    obtain ⟨web, rfl⟩ := url_eq_ok_iff.1 resolved
    have trimmed := Text.trim_eq_self_iff.1 (s.trim_value key)
    have no_blank : ∀ c ∈ (Text.dropTrailingSlashes (s.value key)).toList.head?,
        Text.isBlank c = false := by
      intro c first
      rw [Text.toList_dropTrailingSlashes] at first
      exact trimmed.1 c (Text.head?_of_dropTail first)
    refine ⟨web, ?_, ?_, no_blank, hasHttpScheme_resolved web, ?_, ?_⟩
    · rw [Text.toList_dropTrailingSlashes]
      exact Text.exists_replicate '/' _
    · exact Text.dropTrailingSlashes_eq_self_iff.1 (Text.dropTrailingSlashes_idem _)
    · rw [Text.trim_eq_self_iff, and_iff_right no_blank]
    · exact fun _ _ held => url_of_resolved resolved held
  · intro u resolved
    obtain ⟨web, rfl⟩ := url_eq_ok_iff.1 resolved
    obtain ⟨scheme, rest, scheme_web, written⟩ := (hasHttpScheme_iff _).1 web
    rcases dropTrailingSlashes_web written with ⟨⟨n, rfl⟩, _⟩ | ⟨base, n, rfl, shortened⟩
    · have nobody := Http.parse?_slashes scheme_web written
      refine ⟨fun _ _ _ => .inr ⟨nobody, scheme, _, scheme_web, written, ?_⟩, ?_⟩
      · intro c member
        rw [List.eq_of_mem_replicate member]
        exact List.mem_cons_self
      · intro server named
        rw [nobody] at named
        cases named
    · refine ⟨fun _ _ => Http.parse?_behind_base scheme_web written shortened, ?_⟩
      intro server named
      exact ⟨Http.parse?_base scheme_web written shortened named,
        Http.exists_parse?_behind_base scheme_web written shortened named⟩

/-- An address without a server loses its scheme, and the path of a request is taken for the server.
A blank before the slashes stays at the end. -/
theorem scheme_is_lost :
    let s : Settings := ⟨[("OPENAI_API_KEY", "k"), ("OPENAI_BASE_URL", "http://"),
      ("AZURE_OPENAI_ENDPOINT", "http://a /")]⟩
    s.url "OPENAI_BASE_URL" = .ok "http:" ∧ hasHttpScheme "http:" = false ∧
      (∃ c, ChatCompletions.Config.openAiFromSettings s = .ok c ∧
        Http.Url.parse? (s.value "OPENAI_BASE_URL") = none ∧
        (Http.Url.parse? c.address).map (fun u => String.ofList u.origin) = some "http://chat") ∧
      s.url "AZURE_OPENAI_ENDPOINT" = .ok "http://a " ∧ Text.trim "http://a " ≠ "http://a " ∧
      ¬ ∀ (s : Settings) (key u : String), s.url key = .ok u →
        hasHttpScheme u = true ∧ Text.trim u = u := by
  intro s
  have lost : s.url "OPENAI_BASE_URL" = .ok "http:" := url_eq_ok_iff.2 (by decide +kernel)
  have kept : s.url "AZURE_OPENAI_ENDPOINT" = .ok "http://a " := url_eq_ok_iff.2 (by decide +kernel)
  have no_scheme : hasHttpScheme "http:" = false := by decide
  have blank : Text.trim "http://a " ≠ "http://a " := by decide +kernel
  let c : ChatCompletions.Config :=
    { ChatCompletions.Config.openAi "k" "gpt-4o-mini" with endpoint := .openAi "http:" }
  have resolved : ChatCompletions.Config.openAiFromSettings s = .ok c := by decide +kernel
  have nobody : Http.Url.parse? (s.value "OPENAI_BASE_URL") = none := by decide +kernel
  have chat : (Http.Url.parse? c.address).map (fun u => String.ofList u.origin) =
      some "http://chat" := by decide +kernel
  refine ⟨lost, no_scheme, ⟨c, resolved, nobody, chat⟩, kept, blank, ?_⟩
  intro valid
  have still := (valid s _ _ lost).1
  rw [no_scheme] at still
  cases still

end Settings
end ChatAgents
