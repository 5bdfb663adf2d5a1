import ChainDashboard.Proofs.Topology.History

/-!
# Topologies slice by slice

Updates and events are followed here through the five slices at once, with the version left out.
Equal slices stay equal under the same event (`SameSlices.afterEvent`), and a document that is read
a second time changes no slice (`SameSlices.read_again`).
-/

namespace ChainDashboard

/-- The topology holds in the update's slice what the update says. -/
def SliceUpdate.HeldBy (t : Topology) : SliceUpdate → Prop
  | .chains m => t.chains = m
  | .repositories names => t.repositories = names
  | .main settings => t.main = settings
  | .credentials c => t.credentials = some c
  | .storeIndex index => t.storeIndex = index

theorem SliceUpdate.heldBy_next (t : Topology) (u : SliceUpdate) : u.HeldBy (t.next u) := by
  cases u <;> rfl

theorem SliceUpdate.HeldBy.of_agree {u : SliceUpdate} {t after : Topology} (h : u.HeldBy t)
    (same : after.Agree u.kind t) : u.HeldBy after := by
  cases u <;> exact Eq.trans same h

/-- What was merged from a document takes nothing more from it. -/
theorem Credentials.merge_again {d : Document} {held : Option Credentials} {c : Credentials}
    (h : merge d held = some c) : merge d (some c) = some c := by
  simp only [merge, Option.bind_eq_bind, Option.bind_eq_some_iff, Option.orElse_eq_orElse,
    Option.orElse_eq_or] at h
  obtain ⟨username, foundUsername, password, foundPassword, secret, foundSecret, made⟩ := h
  cases made
  -- a part is the document's own or else was held, so it stands against itself
  have again {own before : Option String} {part : String} (h : own.or before = some part) :
      own.or (some part) = some part := by
    cases own with
    | none => rfl
    | some value => exact h
  simp only [merge, Option.bind_eq_bind, Option.orElse_eq_orElse, Option.orElse_eq_or,
    Option.map_some, again foundUsername, again foundPassword, again foundSecret]
  rfl

namespace Topology

theorem Agree.symm {kind : DocumentKind} {t u : Topology} (h : t.Agree kind u) :
    u.Agree kind t := by
  cases kind <;> exact Eq.symm h

/-- Two topologies have the same in every slice. -/
def SameSlices (t u : Topology) : Prop := ∀ kind, t.Agree kind u

namespace SameSlices

variable {t u v : Topology}

theorem refl (t : Topology) : t.SameSlices t := fun kind => .refl kind t

theorem trans (h : t.SameSlices u) (h' : u.SameSlices v) : t.SameSlices v :=
  fun kind => (h kind).trans (h' kind)

theorem symm (h : t.SameSlices u) : u.SameSlices t := fun kind => (h kind).symm

theorem afterEvent (h : t.SameSlices u) (e : DocumentEvent) :
    (t.afterEvent e).SameSlices (u.afterEvent e) := by
  intro kind
  by_cases own : e.kind = kind
  · subst own
    exact (h e.kind).afterEvent_same
  · exact (Agree.afterEvent_other own t).trans
      ((h kind).trans (Agree.afterEvent_other own u).symm)

theorem afterEvents (h : t.SameSlices u) (events : List DocumentEvent) :
    (t.afterEvents events).SameSlices (u.afterEvents events) := by
  induction events generalizing t u with
  | nil => exact h
  | cons e events ih => exact ih (h.afterEvent e)

/-- A document that is read again leaves every slice as it is. -/
theorem read_again (kind : DocumentKind) (d : Document) (t : Topology) :
    ((t.afterEvent (.read kind d)).afterEvent (.read kind d)).SameSlices
      (t.afterEvent (.read kind d)) := by
  intro other
  by_cases own : kind = other
  · subst own
    cases kind with
    | userMain =>
      simp only [afterEvent_userMain]
      cases alerter : d.alerter? <;> cases store : d.storeSettings.toOption <;>
        simp [Agree, next, withSlice]
    | userNodes => rfl
    | userRepos => rfl
    | internalMain =>
      simp only [afterEvent_internalMain]
      cases d.storeIndex? <;> rfl
    | userUi =>
      rw [afterEvent_userUi t]
      cases merged : Credentials.merge d t.credentials with
      | none =>
        rw [Option.elim_none, afterEvent_userUi, merged]
        exact .refl _ t
      | some c =>
        rw [Option.elim_some, afterEvent_userUi,
          show (t.next (.credentials c)).credentials = some c from rfl,
          Credentials.merge_again merged]
        rfl
  · exact Agree.afterEvent_other (e := .read kind d) own _

end SameSlices

end Topology

end ChainDashboard
