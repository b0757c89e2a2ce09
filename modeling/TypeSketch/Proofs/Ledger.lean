import TypeSketch.Proofs.FreeName

/-!
# The ledger of a registry

A registry serves requests in any order and with any arguments: candidates that ask for a
name, and names that come with their content. The ledger keeps what came of each request,
and from the ledger alone the registry can be told. The names it granted are the pending
and the inserted ones together, each once, and the inserted entries are the contents it
stored, in the order in which they came.

So a name is granted once, whatever the candidates look like; it is stored once at most,
behind all others, and what is stored stays as it is.
-/

namespace TypeSketch.Registry

variable {ε : Type}

/-- What can be asked of a registry. -/
inductive Request (ε : Type) where
  | reserve (candidate : Text)
  | insert (name : Text) (content : ε)

/-- What came of a request. -/
inductive Event (ε : Type) where
  | granted (name : Text)
  | stored (name : Text) (content : ε)
  | refused (refusal : NeverReserved)
deriving DecidableEq, Repr

/-- Serves a request. A refused insertion gives no other registry. -/
def serve (registry : Registry ε) : Request ε → Event ε × Registry ε
  | .reserve candidate =>
    let held := registry.reserve candidate
    (.granted held.1, held.2)
  | .insert name content =>
    match registry.insert name content with
    | .ok next => (.stored name content, next)
    | .error refusal => (.refused refusal, registry)

/-- Serves requests in turn. -/
def serveEach : List (Request ε) → Registry ε → List (Event ε) × Registry ε
  | [], registry => ([], registry)
  | request :: rest, registry =>
    let first := registry.serve request
    let others := serveEach rest first.2
    (first.1 :: others.1, others.2)

/-- What came of requests that an empty registry was asked. -/
def ledger (requests : List (Request ε)) : List (Event ε) := (serveEach requests .empty).1

/-- The registry after requests that an empty one was asked. -/
def served (requests : List (Request ε)) : Registry ε := (serveEach requests .empty).2

/-- The names that were granted, in order. -/
def grants (events : List (Event ε)) : List Text :=
  events.filterMap fun
    | .granted name => some name
    | _ => none

/-- The contents that were stored, with their names and in order. -/
def stores (events : List (Event ε)) : List (Text × ε) :=
  events.filterMap fun
    | .stored name content => some (name, content)
    | _ => none

theorem grants_append (early late : List (Event ε)) :
    grants (early ++ late) = grants early ++ grants late := List.filterMap_append

theorem stores_append (early late : List (Event ε)) :
    stores (early ++ late) = stores early ++ stores late := List.filterMap_append

theorem serveEach_append (early late : List (Request ε)) (registry : Registry ε) :
    serveEach (early ++ late) registry =
      ((serveEach early registry).1 ++ (serveEach late (serveEach early registry).2).1,
        (serveEach late (serveEach early registry).2).2) := by
  induction early generalizing registry with
  | nil => rfl
  | cons request rest inductionHypothesis =>
    simp only [List.cons_append, serveEach, inductionHypothesis]

theorem served_append (early late : List (Request ε)) :
    served (early ++ late) = (serveEach late (served early)).2 := by
  rw [served, serveEach_append]
  rfl

/-- An insertion is accepted if its name is pending, and refused otherwise. -/
theorem insert_pending {registry : Registry ε} {name : Text} (held : name ∈ registry.pending)
    (content : ε) : registry.insert name content = .ok (registry.complete name content) :=
  if_pos (List.contains_iff_mem.mpr held)

theorem insert_unreserved {registry : Registry ε} {name : Text} (free : name ∉ registry.pending)
    (content : ε) : registry.insert name content = .error ⟨name⟩ :=
  if_neg fun held => free (List.contains_iff_mem.mp held)

theorem serve_pending {registry : Registry ε} {name : Text} (held : name ∈ registry.pending)
    (content : ε) :
    registry.serve (.insert name content) =
      (.stored name content, registry.complete name content) := by
  rw [serve, insert_pending held]

theorem serve_unreserved {registry : Registry ε} {name : Text} (free : name ∉ registry.pending)
    (content : ε) :
    registry.serve (.insert name content) = (.refused ⟨name⟩, registry) := by
  rw [serve, insert_unreserved free]

/-- The registry is as the events tell: the names that were granted are the pending and the
inserted ones, no name is held twice, and what is inserted is what was stored. -/
structure Accounts (events : List (Event ε)) (registry : Registry ε) : Prop where
  distinct : (registry.pending ++ registry.names).Nodup
  granted : (grants events).Perm (registry.pending ++ registry.names)
  stored : registry.inserted = stores events

theorem accounts_empty : Accounts ([] : List (Event ε)) .empty :=
  ⟨List.nodup_nil, List.Perm.nil, rfl⟩

/-- One request keeps the account. A grant adds a name to the pending ones, and a name that
is stored moves from these to the inserted ones. -/
theorem serve_accounts {events : List (Event ε)} {registry : Registry ε}
    (accounts : Accounts events registry) (request : Request ε) :
    Accounts (events ++ [(registry.serve request).1]) (registry.serve request).2 := by
  cases request with
  | reserve candidate =>
    have granted : grants (events ++ [(registry.serve (.reserve candidate)).1]) =
        grants events ++ [registry.freeName candidate] := grants_append _ _
    have stored : stores (events ++ [(registry.serve (.reserve candidate)).1]) =
        stores events := (stores_append _ _).trans (List.append_nil _)
    refine ⟨reserve_distinct candidate accounts.distinct, ?_, accounts.stored.trans stored.symm⟩
    rw [granted]
    exact (List.perm_append_singleton _ _).trans (accounts.granted.cons _)
  | insert name content =>
    by_cases held : name ∈ registry.pending
    · have moved := complete_perm content held
      rw [serve_pending held]
      refine ⟨moved.nodup_iff.mpr accounts.distinct, ?_, ?_⟩
      · rw [grants_append]
        exact (List.append_nil (grants events)).symm ▸ accounts.granted.trans moved.symm
      · rw [complete_inserted, accounts.stored, stores_append]
        rfl
    · rw [serve_unreserved held]
      refine ⟨accounts.distinct, ?_, ?_⟩
      · rw [grants_append]
        exact (List.append_nil (grants events)).symm ▸ accounts.granted
      · rw [stores_append]
        exact accounts.stored.trans (List.append_nil _).symm

/-- So do requests in turn. -/
theorem serveEach_accounts {events : List (Event ε)} {registry : Registry ε}
    (accounts : Accounts events registry) (requests : List (Request ε)) :
    Accounts (events ++ (serveEach requests registry).1) (serveEach requests registry).2 := by
  induction requests generalizing events registry with
  | nil => exact (List.append_nil events).symm ▸ accounts
  | cons request rest inductionHypothesis =>
    have others := inductionHypothesis (serve_accounts accounts request)
    rwa [List.append_assoc] at others

theorem served_accounts (requests : List (Request ε)) :
    Accounts (ledger requests) (served requests) := serveEach_accounts accounts_empty requests

/-- One request frees no name and leaves what is inserted in its place. -/
theorem serve_keeps (registry : Registry ε) (request : Request ε) :
    (∀ name, registry.contains name = true → (registry.serve request).2.contains name = true) ∧
      registry.inserted <+: (registry.serve request).2.inserted := by
  cases request with
  | reserve candidate =>
    refine ⟨fun name held => ?_, List.prefix_refl _⟩
    have taken := contains_reserve registry candidate name
    rw [held, Bool.or_true] at taken
    exact taken
  | insert name content =>
    by_cases held : name ∈ registry.pending
    · rw [serve_pending held]
      refine ⟨fun other taken => ?_, List.prefix_append _ _⟩
      rw [complete_sameNames content held]
      exact taken
    · rw [serve_unreserved held]
      exact ⟨fun _ taken => taken, List.prefix_refl _⟩

/-- So do requests in turn. -/
theorem serveEach_keeps (registry : Registry ε) (requests : List (Request ε)) :
    (∀ name, registry.contains name = true →
        (serveEach requests registry).2.contains name = true) ∧
      registry.inserted <+: (serveEach requests registry).2.inserted := by
  induction requests generalizing registry with
  | nil => exact ⟨fun _ taken => taken, List.prefix_refl _⟩
  | cons request rest inductionHypothesis =>
    obtain ⟨taken, ahead⟩ := serve_keeps registry request
    obtain ⟨takenLater, aheadLater⟩ := inductionHypothesis (registry.serve request).2
    exact ⟨fun name held => takenLater name (taken name held), ahead.trans aheadLater⟩

/-- What is found under a name is found there when more is inserted behind. -/
theorem get?_of_prefix {early late : Registry ε} (ahead : early.inserted <+: late.inserted)
    {name : Text} {content : ε} (found : early.get? name = some content) :
    late.get? name = some content := by
  obtain ⟨more, split⟩ := ahead
  have known : early.inserted.lookup name = some content := found
  rw [get?, ← split, List.lookup_append, known, Option.some_or]

/-- What is inserted under a new name is found there. -/
theorem get?_complete {registry : Registry ε} {name : Text} (content : ε)
    (new : name ∉ registry.names) : (registry.complete name content).get? name = some content := by
  have missing : registry.inserted.lookup name = none := by
    rw [List.lookup_eq_none_iff]
    intro entry member
    rw [bne_iff_ne]
    rintro rfl
    exact new (List.mem_map_of_mem member)
  rw [get?, complete_inserted, List.lookup_append, missing, Option.none_or]
  exact List.lookup_cons_self

/-- At every point of a session the registry is as its ledger tells. Pending and inserted
names are apart, no name was granted twice, and the names granted are those that are pending
or inserted. What is inserted is what was stored, in its order, so the size counts what was
stored and no name is there twice. Later requests free no name, change no content and move no
entry. An insertion is accepted exactly if its name was granted and is not inserted yet, and
then takes the last place; a refused one leaves the registry as it was. -/
theorem session_follows_ledger (earlier later : List (Request ε)) :
    (served earlier).pending.Disjoint (served earlier).names ∧
    (grants (ledger earlier)).Nodup ∧
    (∀ name, (served earlier).contains name = true ↔ name ∈ grants (ledger earlier)) ∧
    (served earlier).inserted = stores (ledger earlier) ∧
    (served earlier).names.Nodup ∧
    (served earlier).size = (stores (ledger earlier)).length ∧
    (∀ name, (served earlier).contains name = true →
      (served (earlier ++ later)).contains name = true) ∧
    (served earlier).inserted <+: (served (earlier ++ later)).inserted ∧
    (∀ name content, (served earlier).get? name = some content →
      (served (earlier ++ later)).get? name = some content) ∧
    ∀ name content,
      if name ∈ grants (ledger earlier) ∧ name ∉ (stores (ledger earlier)).map Prod.fst then
        ∃ next, (served earlier).insert name content = .ok next ∧
          served (earlier ++ [.insert name content]) = next ∧
          next.inserted = (served earlier).inserted ++ [(name, content)] ∧
          next.get? name = some content
      else
        (served earlier).insert name content = .error ⟨name⟩ ∧
          served (earlier ++ [.insert name content]) = served earlier := by
  have accounts := served_accounts earlier
  obtain ⟨_, namesDistinct, apart⟩ := List.nodup_append.mp accounts.distinct
  have kept := serveEach_keeps (served earlier) later
  rw [← served_append] at kept
  have held (name : Text) : name ∈ grants (ledger earlier) ↔
      name ∈ (served earlier).pending ∨ name ∈ (served earlier).names := by
    rw [accounts.granted.mem_iff, List.mem_append]
  have listed : (stores (ledger earlier)).map Prod.fst = (served earlier).names := by
    rw [names, accounts.stored]
  refine ⟨fun name waiting inserted => apart name waiting name inserted rfl,
    accounts.granted.nodup_iff.mpr accounts.distinct,
    fun name => (contains_iff _ name).trans (held name).symm, accounts.stored, namesDistinct,
    congrArg List.length accounts.stored, kept.1, kept.2,
    fun name content found => get?_of_prefix kept.2 found, ?_⟩
  intro name content
  rw [listed]
  split
  · next waits =>
    have pending : name ∈ (served earlier).pending :=
      ((held name).mp waits.1).resolve_right waits.2
    refine ⟨_, insert_pending pending content, ?_, rfl, get?_complete content waits.2⟩
    rw [served_append, serveEach, serve_pending pending]
    rfl
  · next unasked =>
    have free : name ∉ (served earlier).pending := fun waiting =>
      unasked ⟨(held name).mpr (.inl waiting), fun inserted => apart name waiting name inserted rfl⟩
    refine ⟨insert_unreserved free content, ?_⟩
    rw [served_append, serveEach, serve_unreserved free]
    rfl

/-- Candidates that look like numbered variants of each other get names of their own, and an
insertion under a name that was not granted is refused. -/
example : ledger [.reserve "Item", .reserve "Item1", .reserve "Item", .insert "Item2" (),
      .insert "Item12" (), .insert "Item2" ()] =
    [.granted "Item", .granted "Item1", .granted "Item2", .stored "Item2" (),
      .refused ⟨"Item12"⟩, .refused ⟨"Item2"⟩] := by decide +kernel

end TypeSketch.Registry
