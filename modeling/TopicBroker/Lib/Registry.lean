import Mathlib.Logic.Function.Basic

/-!
# Registries

A registry is a partial map from ids to sessions. A session may be connected,
has a partial map of topics to options, and a list of pending messages. Requests
name a connection, not an id, and concern the session that owns it.
-/

namespace TopicBroker

universe u

structure Session (κ τ ο μ : Type u) where
  conn : Option κ
  topics : τ → Option ο
  pending : List μ

/-- `ι` are the ids, `κ` the connections, `τ` the topics, `ο` the options and `μ` the messages. -/
abbrev Registry (ι κ τ ο μ : Type u) := ι → Option (Session κ τ ο μ)

/-- The operations on a registry. -/
inductive Request (ι κ τ ο μ : Type u) where
  | register (id : ι) (conn : κ)
  | close (conn : κ)
  | subscribe (conn : κ) (topic : τ) (option : ο)
  | unsubscribe (conn : κ) (topic : τ)
  | add (id : ι) (msg : μ)

namespace Registry

variable {ι κ τ ο μ : Type u}

/-- The session under the id has the connection. -/
def Owns (registry : Registry ι κ τ ο μ) (conn : κ) (id : ι) : Prop :=
  ∃ session, registry id = some session ∧ session.conn = some conn

/-- No connection has two owners. -/
def Exclusive (registry : Registry ι κ τ ο μ) : Prop :=
  ∀ conn id other, registry.Owns conn id → registry.Owns conn other → id = other

open Classical in
/-- The id that owns the connection. -/
noncomputable def owner (registry : Registry ι κ τ ο μ) (conn : κ) : Option ι :=
  if owned : ∃ id, registry.Owns conn id then some owned.choose else none

theorem owner_eq_some {registry : Registry ι κ τ ο μ} (exclusive : registry.Exclusive) {conn : κ}
    {id : ι} (owns : registry.Owns conn id) : registry.owner conn = some id := by
  have owned : ∃ id, registry.Owns conn id := ⟨id, owns⟩
  rw [owner, dif_pos owned, exclusive conn _ _ owned.choose_spec owns]

theorem owner_eq_none {registry : Registry ι κ τ ο μ} {conn : κ}
    (free : ∀ id, ¬ registry.Owns conn id) : registry.owner conn = none := by
  rw [owner, dif_neg]
  rintro ⟨id, owns⟩
  exact free id owns

variable [DecidableEq ι]

/-- One session is replaced, all others stay. -/
def revise (registry : Registry ι κ τ ο μ) (id : ι) (session : Session κ τ ο μ) :
    Registry ι κ τ ο μ :=
  Function.update registry id (some session)

theorem revise_known {registry : Registry ι κ τ ο μ} {id other : ι} {session : Session κ τ ο μ}
    (known : (registry.revise id session other).isSome = true) :
    (registry other).isSome = true ∨ other = id := by
  by_cases same : other = id
  · exact Or.inr same
  · rw [revise, Function.update_of_ne same] at known
    exact Or.inl known

theorem revise_kept {registry : Registry ι κ τ ο μ} {id other : ι} {before : Session κ τ ο μ}
    (here : registry id = some before) (session : Session κ τ ο μ)
    (known : (registry.revise id session other).isSome = true) :
    (registry other).isSome = true := by
  rcases revise_known known with old | rfl
  · exact old
  · exact Option.isSome_of_eq_some here

variable [DecidableEq τ]

/-- The registry after a request, `none` when the request fails. -/
noncomputable def serve (registry : Registry ι κ τ ο μ) :
    Request ι κ τ ο μ → Option (Registry ι κ τ ο μ)
  | .register id conn =>
      match registry id with
      | none => some (registry.revise id ⟨some conn, fun _ => none, []⟩)
      | some session =>
          if session.conn.isSome then none
          else some (registry.revise id { session with conn := some conn })
  | .close conn => do
      let id ← registry.owner conn
      let session ← registry id
      return registry.revise id { session with conn := none }
  | .subscribe conn topic option => do
      let id ← registry.owner conn
      let session ← registry id
      return registry.revise id
        { session with topics := Function.update session.topics topic (some option) }
  | .unsubscribe conn topic => do
      let id ← registry.owner conn
      let session ← registry id
      if (session.topics topic).isSome then
        return registry.revise id
          { session with topics := Function.update session.topics topic none }
      else none
  | .add id msg => do
      let session ← registry id
      return registry.revise id { session with pending := session.pending ++ [msg] }

/-- Only a registration brings a new id. -/
theorem serve_known {registry after : Registry ι κ τ ο μ} {request : Request ι κ τ ο μ}
    (served : registry.serve request = some after) {id : ι} (known : (after id).isSome = true) :
    (registry id).isSome = true ∨ ∃ conn, request = .register id conn := by
  cases request with
  | register other conn =>
      simp only [serve] at served
      split at served
      · obtain rfl := Option.some.inj served
        exact (revise_known known).imp_right fun same => ⟨conn, by rw [same]⟩
      · rename_i session here
        split at served
        · cases served
        · obtain rfl := Option.some.inj served
          exact Or.inl (revise_kept here _ known)
  | close conn =>
      obtain ⟨owner, _, session, here, done⟩ := by
        simpa only [serve, Option.bind_eq_bind, Option.bind_eq_some_iff] using served
      obtain rfl := Option.some.inj done
      exact Or.inl (revise_kept here _ known)
  | subscribe conn topic option =>
      obtain ⟨owner, _, session, here, done⟩ := by
        simpa only [serve, Option.bind_eq_bind, Option.bind_eq_some_iff] using served
      obtain rfl := Option.some.inj done
      exact Or.inl (revise_kept here _ known)
  | unsubscribe conn topic =>
      obtain ⟨owner, _, session, here, done⟩ := by
        simpa only [serve, Option.bind_eq_bind, Option.bind_eq_some_iff] using served
      split at done
      · obtain rfl := Option.some.inj done
        exact Or.inl (revise_kept here _ known)
      · cases done
  | add other msg =>
      obtain ⟨session, here, done⟩ := by
        simpa only [serve, Option.bind_eq_bind, Option.bind_eq_some_iff] using served
      obtain rfl := Option.some.inj done
      exact Or.inl (revise_kept here _ known)

end Registry

end TopicBroker
