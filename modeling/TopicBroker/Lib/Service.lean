import TopicBroker.Lib.Registry
import TopicBroker.Lib.Runs

/-!
# A publish–subscribe service

What a broker is for, said without sockets, tables and buffers. Sessions come
and go under their ids. A message that is published goes to every session that
is connected and subscribed to its topic, waits for the sessions that are away
and asked for that, and concerns nobody else. A session that comes back gets
what waited for it, the last message first. On unreliable connections a message
may be lost, but only on its way to a connected session.
-/

namespace TopicBroker

universe u

/-- Which options ask to keep what is published during an absence, and what a message is about. -/
structure Policy (τ ο μ : Type u) where
  keeps : ο → Prop
  topic : μ → τ

variable {ι κ τ ο μ ν : Type u}

namespace Session

/-- What becomes of a session when a message is published, and what its owner gets. -/
inductive Offered (policy : Policy τ ο μ) (reliable : Prop) (msg : μ)
    (session : Session κ τ ο μ) : List μ → Session κ τ ο μ → Prop where
  | ignored (unsubscribed : session.topics (policy.topic msg) = none) :
      Offered policy reliable msg session [] session
  | delivered (connected : session.conn.isSome)
      (subscribed : (session.topics (policy.topic msg)).isSome) :
      Offered policy reliable msg session [msg] session
  | lost (connected : session.conn.isSome)
      (subscribed : (session.topics (policy.topic msg)).isSome) (broken : ¬ reliable) :
      Offered policy reliable msg session [] session
  | kept (option : ο) (away : session.conn = none)
      (subscribed : session.topics (policy.topic msg) = some option)
      (asked : policy.keeps option) :
      Offered policy reliable msg session [] { session with pending := session.pending ++ [msg] }
  | missed (option : ο) (away : session.conn = none)
      (subscribed : session.topics (policy.topic msg) = some option)
      (unasked : ¬ policy.keeps option) : Offered policy reliable msg session [] session

/-- The session with other messages in the place of those that can be read. -/
def translate (read : μ → Option ν) (session : Session κ τ ο μ) : Session κ τ ο ν where
  conn := session.conn
  topics := session.topics
  pending := session.pending.filterMap read

end Session

/-! ## Logs of deliveries -/

/-- What a log holds for one id. -/
def mine [DecidableEq ι] (id : ι) (log : List (ι × μ)) : List μ :=
  log.filterMap fun delivery => if delivery.1 = id then some delivery.2 else none

section Mine

variable [DecidableEq ι]

theorem mine_cons_own (id : ι) (msg : μ) (log : List (ι × μ)) :
    mine id ((id, msg) :: log) = msg :: mine id log := by
  simp [mine]

theorem mine_cons_other {id other : ι} (different : other ≠ id) (msg : μ) (log : List (ι × μ)) :
    mine id ((other, msg) :: log) = mine id log := by
  simp [mine, different]

theorem mine_append (id : ι) (log more : List (ι × μ)) :
    mine id (log ++ more) = mine id log ++ mine id more := List.filterMap_append

end Mine

/-! ## The service -/

/-- What a connected session asks for. -/
inductive Management (κ τ ο : Type u) where
  | close (conn : κ)
  | subscribe (conn : κ) (topic : τ) (option : ο)
  | unsubscribe (conn : κ) (topic : τ)

def Management.request : Management κ τ ο → Request ι κ τ ο μ
  | .close conn => .close conn
  | .subscribe conn topic option => .subscribe conn topic option
  | .unsubscribe conn topic => .unsubscribe conn topic

namespace Registry

/-- All sessions with other messages. -/
def translate (read : μ → Option ν) (registry : Registry ι κ τ ο μ) : Registry ι κ τ ο ν :=
  fun id => (registry id).map (Session.translate read)

/-! ## Topics -/

/-- The topics under an id, none when there is no session. -/
def topicsOf (registry : Registry ι κ τ ο μ) (id : ι) : τ → Option ο :=
  (registry id).elim (fun _ => none) Session.topics

theorem topicsOf_of_some {registry : Registry ι κ τ ο μ} {id : ι} {session : Session κ τ ο μ}
    (opened : registry id = some session) : registry.topicsOf id = session.topics := by
  rw [topicsOf, opened]
  rfl

/-- An owner has a session. -/
theorem opened_of_owner {registry : Registry ι κ τ ο μ} {conn : κ} {id : ι}
    (owner : registry.owner conn = some id) :
    ∃ session, registry id = some session ∧ session.conn = some conn := by
  unfold Registry.owner at owner
  split at owner
  · rename_i owned
    rw [← Option.some.inj owner]
    exact owned.choose_spec
  · cases owner

section Topics

variable [DecidableEq ι] {registry : Registry ι κ τ ο μ} {conn : κ} {id : ι}

theorem topicsOf_revise (registry : Registry ι κ τ ο μ) (id : ι) (session : Session κ τ ο μ) :
    (registry.revise id session).topicsOf =
      Function.update registry.topicsOf id session.topics := by
  funext other
  by_cases own : other = id
  · subst own
    simp [topicsOf, revise]
  · simp [topicsOf, revise, Function.update_of_ne own]

variable [DecidableEq τ]

theorem topicsOf_subscribe (owner : registry.owner conn = some id) (topic : τ) (option : ο) :
    ((registry.serve (.subscribe conn topic option)).getD registry).topicsOf =
      Function.update registry.topicsOf id
        (Function.update (registry.topicsOf id) topic (some option)) := by
  obtain ⟨session, opened, _⟩ := opened_of_owner owner
  simp only [Registry.serve, owner, Option.bind_eq_bind, Option.bind_some, opened]
  rw [topicsOf_of_some opened]
  exact topicsOf_revise registry id _

theorem topicsOf_unsubscribe (owner : registry.owner conn = some id) (topic : τ) :
    ((registry.serve (.unsubscribe conn topic)).getD registry).topicsOf =
      Function.update registry.topicsOf id
        (Function.update (registry.topicsOf id) topic none) := by
  obtain ⟨session, opened, _⟩ := opened_of_owner owner
  simp only [Registry.serve, owner, Option.bind_eq_bind, Option.bind_some, opened]
  rw [topicsOf_of_some opened]
  split
  · exact topicsOf_revise registry id _
  · rename_i unknown
    have same : Function.update session.topics topic none = session.topics :=
      Function.update_eq_iff.mpr ⟨by simpa using (Eq.symm (by simpa using unknown)), fun _ _ => rfl⟩
    rw [same, ← topicsOf_of_some opened]
    exact (Function.update_eq_self id registry.topicsOf).symm

end Topics

/-! ## Translation -/

theorem owns_translate (read : μ → Option ν) (registry : Registry ι κ τ ο μ) (conn : κ) (id : ι) :
    (registry.translate read).Owns conn id ↔ registry.Owns conn id := by
  constructor
  · rintro ⟨session, opened, owns⟩
    obtain ⟨original, here, rfl⟩ := Option.map_eq_some_iff.mp opened
    exact ⟨original, here, owns⟩
  · rintro ⟨session, here, owns⟩
    exact ⟨session.translate read, by rw [translate, here]; rfl, owns⟩

theorem owner_translate (read : μ → Option ν) (registry : Registry ι κ τ ο μ) (conn : κ) :
    (registry.translate read).owner conn = registry.owner conn := by
  have same : (registry.translate read).Owns conn = registry.Owns conn :=
    funext fun id => propext (owns_translate read registry conn id)
  let choice (owns : ι → Prop) : Option ι :=
    open Classical in if owned : ∃ id, owns id then some owned.choose else none
  change choice ((registry.translate read).Owns conn) = choice (registry.Owns conn)
  rw [same]

theorem revise_translate [DecidableEq ι] {read : μ → Option ν} {registry : Registry ι κ τ ο μ}
    (id : ι) {session : Session κ τ ο μ} {next : Session κ τ ο ν}
    (translated : session.translate read = next) :
    (registry.translate read).revise id next = (registry.revise id session).translate read := by
  subst translated
  funext other
  by_cases own : other = id
  · subst own
    simp [translate, revise]
  · simp [translate, revise, Function.update_of_ne own]

variable [DecidableEq ι] [DecidableEq τ]

/-- What a connected session asks for does not touch the messages. -/
theorem serve_translate (read : μ → Option ν) (registry : Registry ι κ τ ο μ)
    (order : Management κ τ ο) :
    (registry.translate read).serve order.request =
      (registry.serve order.request).map (translate read) := by
  cases order with
  | close conn =>
      simp only [Management.request, serve, owner_translate]
      cases registry.owner conn with
      | none => rfl
      | some id =>
          cases here : registry id with
          | none => simp [translate, here]
          | some session =>
              simp only [translate, here, Option.map_some, Option.bind_eq_bind, Option.bind_some,
                pure]
              exact congrArg some (revise_translate id rfl)
  | subscribe conn topic option =>
      simp only [Management.request, serve, owner_translate]
      cases registry.owner conn with
      | none => rfl
      | some id =>
          cases here : registry id with
          | none => simp [translate, here]
          | some session =>
              simp only [translate, here, Option.map_some, Option.bind_eq_bind, Option.bind_some,
                pure]
              exact congrArg some (revise_translate id rfl)
  | unsubscribe conn topic =>
      simp only [Management.request, serve, owner_translate]
      cases registry.owner conn with
      | none => rfl
      | some id =>
          cases here : registry id with
          | none => simp [translate, here]
          | some session =>
              simp only [translate, here, Option.map_some, Option.bind_eq_bind, Option.bind_some,
                pure, Session.translate]
              split
              · exact congrArg some (revise_translate id rfl)
              · rfl

theorem register_translate (read : μ → Option ν) (registry : Registry ι κ τ ο μ) (id : ι)
    (conn : κ) :
    (registry.translate read).serve (.register id conn) =
      (registry.serve (.register id conn)).map (translate read) := by
  simp only [serve]
  cases here : registry id with
  | none =>
      simp only [translate, here, Option.map_none, Option.map_some]
      exact congrArg some (revise_translate id rfl)
  | some session =>
      simp only [translate, here, Option.map_some, Session.translate]
      split
      · rfl
      · exact congrArg some (revise_translate id rfl)

/-! ## Steps -/

/-- What the service does next, and what it delivers then. -/
inductive Step (policy : Policy τ ο μ) (reliable : Prop) (registry : Registry ι κ τ ο μ) :
    List (ι × μ) → Registry ι κ τ ο μ → Prop where
  | refused : Step policy reliable registry [] registry
  | managed (order : Management κ τ ο) (after : Registry ι κ τ ο μ)
      (granted : registry.serve order.request = some after) :
      Step policy reliable registry [] after
  | connected (id : ι) (conn : κ) (middle : Registry ι κ τ ο μ) (session : Session κ τ ο μ)
      (left : Nat) (free : ∀ other, ¬ registry.Owns conn other)
      (granted : registry.serve (.register id conn) = some middle)
      (opened : middle id = some session) (complete : reliable → left = 0) :
      Step policy reliable registry ((session.pending.drop left).reverse.map (Prod.mk id))
        (middle.revise id { session with pending := [] })
  | published (msg : μ) (log : List (ι × μ)) (after : Registry ι κ τ ο μ)
      (nobody : ∀ id, registry id = none → after id = none ∧ mine id log = [])
      (offered : ∀ id session, registry id = some session → ∃ next, after id = some next ∧
        session.Offered policy reliable msg (mine id log) next) :
      Step policy reliable registry log after

end Registry

/-- The service starts with no session at all. -/
def service [DecidableEq ι] [DecidableEq τ] (policy : Policy τ ο μ) (reliable : Prop) :
    System (Registry ι κ τ ο μ) (ι × μ) where
  init registry := registry = fun _ => none
  step registry := Registry.Step policy reliable registry

end TopicBroker
