import GlobalHotkeys.Error
import GlobalHotkeys.Provider.Basic
import Mathlib.Data.List.Count
import Mathlib.Data.List.Induction

/-!
# The uses that are made of providers

Providers are numbered in the order of their creation. A history of uses is orderly if only providers
that exist, have not failed to start and have not been stopped are used, each is started at most once,
and none is started while another one runs.
-/

namespace GlobalHotkeys

inductive ProviderUse where
  | create (kind : ProviderKind)
  | probe
  | register (hotkey : String) (binding : Binding) (refused : Option HotkeyError)
  | start (failed : Option HotkeyError)
  | stop
  | askCapture
  | capture
  deriving DecidableEq, Repr

abbrev NumberedUse := Nat × ProviderUse

def ProviderUse.creates : ProviderUse → Bool
  | create _ => true
  | _ => false

def creations (uses : List NumberedUse) : Nat :=
  uses.countP fun use => use.2.creates

def Running (uses : List NumberedUse) (number : Nat) : Prop :=
  (number, .start none) ∈ uses ∧ (number, .stop) ∉ uses

structure Usable (uses : List NumberedUse) (number : Nat) : Prop where
  created : ∃ kind, (number, .create kind) ∈ uses
  working : ∀ cause, (number, .start (some cause)) ∉ uses
  unstopped : (number, .stop) ∉ uses

/-- Whether a use may come after these. -/
def Allowed (past : List NumberedUse) : NumberedUse → Prop
  | (number, .create _) => number = creations past
  | (number, .start _) =>
    Usable past number ∧ (number, .start none) ∉ past ∧ ∀ other, ¬ Running past other
  | (number, .stop) => Usable past number ∧ (number, .start none) ∈ past
  | (number, _) => Usable past number

inductive Orderly : List NumberedUse → Prop where
  | nil : Orderly []
  | concat {past : List NumberedUse} {next : NumberedUse} (orderly : Orderly past)
      (allowed : Allowed past next) : Orderly (past ++ [next])

namespace Orderly

theorem concat_iff {past : List NumberedUse} {next : NumberedUse} :
    Orderly (past ++ [next]) ↔ Orderly past ∧ Allowed past next := by
  constructor
  · intro orderly
    generalize whole : past ++ [next] = uses at orderly
    cases orderly with
    | nil => simp at whole
    | concat earlier allowed =>
        obtain ⟨rfl, last⟩ := List.append_inj' whole rfl
        obtain rfl := List.singleton_inj.mp last
        exact ⟨earlier, allowed⟩
  · exact fun both => both.1.concat both.2

theorem of_append {past later : List NumberedUse} (orderly : Orderly (past ++ later)) :
    Orderly past := by
  induction later using List.reverseRecOn with
  | nil => rwa [List.append_nil] at orderly
  | append_singleton later next ih =>
      rw [← List.append_assoc, concat_iff] at orderly
      exact ih orderly.1

theorem allowed_of_append {past later : List NumberedUse} {next : NumberedUse}
    (orderly : Orderly (past ++ next :: later)) : Allowed past next := by
  rw [List.append_cons] at orderly
  exact (concat_iff.mp orderly.of_append).2

theorem usable_of_allowed {past : List NumberedUse} {next : NumberedUse}
    (allowed : Allowed past next) (uncreated : next.2.creates = false) : Usable past next.1 := by
  obtain ⟨number, use⟩ := next
  cases use with
  | create kind => cases uncreated
  | start failed => exact allowed.1
  | stop => exact allowed.1
  | probe => exact allowed
  | register hotkey binding refused => exact allowed
  | askCapture => exact allowed
  | capture => exact allowed

theorem creations_concat (past : List NumberedUse) (next : NumberedUse) :
    creations (past ++ [next]) = creations past + if next.2.creates then 1 else 0 := by
  rw [creations, List.countP_append, List.countP_singleton, creations]

theorem creations_le_concat (past : List NumberedUse) (next : NumberedUse) :
    creations past ≤ creations (past ++ [next]) := by
  rw [creations_concat]
  exact Nat.le_add_right _ _

theorem create_lt {uses : List NumberedUse} (orderly : Orderly uses) {number : Nat}
    {kind : ProviderKind} (created : (number, .create kind) ∈ uses) : number < creations uses := by
  induction orderly with
  | nil => cases created
  | @concat past next earlier allowed ih =>
      rcases List.mem_append.mp created with before | last
      · exact Nat.lt_of_lt_of_le (ih before) (creations_le_concat past next)
      · obtain rfl := List.mem_singleton.mp last
        rw [creations_concat, show number = creations past from allowed]
        exact Nat.lt_succ_self _

theorem exists_create {uses : List NumberedUse} (orderly : Orderly uses) {use : NumberedUse}
    (member : use ∈ uses) : ∃ kind, (use.1, .create kind) ∈ uses := by
  cases created : use.2.creates with
  | true =>
      obtain ⟨number, use⟩ := use
      cases use with
      | create kind => exact ⟨kind, member⟩
      | _ => cases created
  | false =>
      obtain ⟨past, later, rfl⟩ := List.append_of_mem member
      obtain ⟨kind, before⟩ := (usable_of_allowed orderly.allowed_of_append created).created
      exact ⟨kind, List.mem_append_left _ before⟩

theorem lt_creations {uses : List NumberedUse} (orderly : Orderly uses) {use : NumberedUse}
    (member : use ∈ uses) : use.1 < creations uses := by
  obtain ⟨kind, created⟩ := orderly.exists_create member
  exact orderly.create_lt created

theorem create_unique {uses : List NumberedUse} (orderly : Orderly uses) {number : Nat}
    {first second : ProviderKind} (one : (number, .create first) ∈ uses)
    (other : (number, .create second) ∈ uses) : first = second := by
  induction orderly with
  | nil => cases one
  | @concat past next earlier allowed ih =>
      rcases List.mem_append.mp one with oneBefore | oneLast
      · rcases List.mem_append.mp other with otherBefore | otherLast
        · exact ih oneBefore otherBefore
        · obtain rfl := List.mem_singleton.mp otherLast
          exact absurd allowed (Nat.ne_of_lt (earlier.create_lt oneBefore))
      · obtain rfl := List.mem_singleton.mp oneLast
        rcases List.mem_append.mp other with otherBefore | otherLast
        · exact absurd allowed (Nat.ne_of_lt (earlier.create_lt otherBefore))
        · rw [List.mem_singleton, Prod.mk.injEq, ProviderUse.create.injEq] at otherLast
          exact otherLast.2.symm

theorem unused_after_failure {earlier later : List NumberedUse} {number : Nat} {cause : HotkeyError}
    (orderly : Orderly (earlier ++ (number, .start (some cause)) :: later)) :
    ∀ use ∈ later, use.1 ≠ number := by
  rintro use member rfl
  obtain ⟨between, rest, rfl⟩ := List.append_of_mem member
  rw [← List.cons_append, ← List.append_assoc] at orderly
  have failed : (use.1, .start (some cause)) ∈ earlier ++ (use.1, .start (some cause)) :: between := by
    simp
  have allowed := orderly.allowed_of_append
  cases created : use.2.creates with
  | false => exact (usable_of_allowed allowed created).working cause failed
  | true =>
      obtain ⟨number, use⟩ := use
      cases use with
      | create kind => exact absurd allowed (Nat.ne_of_lt (orderly.of_append.lt_creations failed))
      | _ => cases created

theorem count_stop_le_one {uses : List NumberedUse} (orderly : Orderly uses) (number : Nat) :
    uses.count (number, .stop) ≤ 1 := by
  induction orderly with
  | nil => exact Nat.zero_le _
  | @concat past next earlier allowed ih =>
      rw [List.count_append, List.count_singleton]
      by_cases stops : next = (number, .stop)
      · subst stops
        rw [List.count_eq_zero.mpr allowed.1.unstopped]
        simp
      · rw [if_neg (by simpa using stops)]
        exact ih

theorem count_stop_between {earlier between later : List NumberedUse} {first second : Nat}
    (orderly : Orderly (earlier ++ (first, .start none) :: between ++ (second, .start none) :: later)) :
    between.count (first, .stop) = 1 := by
  have begun : (first, .start none) ∈ earlier ++ (first, .start none) :: between := by simp
  have upTo := orderly.of_append
  obtain ⟨-, -, idle⟩ := orderly.allowed_of_append
  obtain ⟨usable, -, -⟩ := upTo.allowed_of_append
  have stopped : (first, .stop) ∈ earlier ++ (first, .start none) :: between := by
    by_contra unstopped
    exact idle first ⟨begun, unstopped⟩
  -- Only a usable provider is started, so its stop cannot stand before its start.
  have here : (first, .stop) ∈ between := by
    rcases List.mem_append.mp stopped with before | after
    · exact absurd before usable.unstopped
    · exact (List.mem_cons.mp after).resolve_left (by simp)
  have most := upTo.count_stop_le_one first
  rw [List.count_append, List.count_cons] at most
  have least := List.count_pos_iff.mpr here
  omega

end Orderly

structure Calm (before after : List NumberedUse) : Prop where
  orderly : Orderly after
  kept : before ⊆ after
  starts : ∀ number failed, (number, .start failed) ∈ after → (number, .start failed) ∈ before
  stops : ∀ number, (number, .stop) ∈ after → (number, .stop) ∈ before

def Ready (uses : List NumberedUse) (number : Nat) : Prop :=
  Usable uses number ∧ (number, .start none) ∉ uses

namespace Calm

variable {before between after : List NumberedUse} {number : Nat}

theorem refl (orderly : Orderly before) : Calm before before :=
  ⟨orderly, List.Subset.refl _, fun _ _ => id, fun _ => id⟩

theorem trans (first : Calm before between) (second : Calm between after) : Calm before after where
  orderly := second.orderly
  kept _ member := second.kept (first.kept member)
  starts number failed member := first.starts number failed (second.starts number failed member)
  stops number member := first.stops number (second.stops number member)

theorem concat (orderly : Orderly before) {next : NumberedUse} (allowed : Allowed before next)
    (starts : ∀ failed, next.2 ≠ .start failed) (stops : next.2 ≠ .stop) :
    Calm before (before ++ [next]) where
  orderly := orderly.concat allowed
  kept := List.subset_append_left _ _
  starts number failed member := by
    refine (List.mem_append.mp member).resolve_right fun last => starts failed ?_
    rw [← List.mem_singleton.mp last]
  stops number member := by
    refine (List.mem_append.mp member).resolve_right fun last => stops ?_
    rw [← List.mem_singleton.mp last]

theorem running_iff (calm : Calm before after) : Running after number ↔ Running before number :=
  ⟨fun runs => ⟨calm.starts _ _ runs.1, fun stopped => runs.2 (calm.kept stopped)⟩,
    fun runs => ⟨calm.kept runs.1, fun stopped => runs.2 (calm.stops _ stopped)⟩⟩

theorem usable (calm : Calm before after) (usable : Usable before number) : Usable after number where
  created := usable.created.imp fun _ created => calm.kept created
  working cause failed := usable.working cause (calm.starts _ _ failed)
  unstopped stopped := usable.unstopped (calm.stops _ stopped)

theorem ready (calm : Calm before after) (ready : Ready before number) : Ready after number :=
  ⟨calm.usable ready.1, fun started => ready.2 (calm.starts _ _ started)⟩

end Calm

section Life

variable {uses : List NumberedUse} {number : Nat}

theorem Orderly.calm_create (orderly : Orderly uses) (kind : ProviderKind) :
    Calm uses (uses ++ [(creations uses, .create kind)]) :=
  .concat orderly rfl (fun _ => ProviderUse.noConfusion) ProviderUse.noConfusion

theorem Orderly.ready_create (orderly : Orderly uses) (kind : ProviderKind) :
    Ready (uses ++ [(creations uses, .create kind)]) (creations uses) := by
  have unseen (use : ProviderUse) : (creations uses, use) ∉ uses := fun member =>
    Nat.lt_irrefl _ (orderly.lt_creations member)
  refine ⟨⟨⟨kind, by simp⟩, fun cause => ?_, ?_⟩, ?_⟩ <;> simp [unseen]

theorem Ready.usable_start (ready : Ready uses number) :
    Usable (uses ++ [(number, .start none)]) number := by
  obtain ⟨kind, created⟩ := ready.1.created
  refine ⟨⟨kind, List.mem_append_left _ created⟩, fun cause => ?_, ?_⟩
  · simpa using ready.1.working cause
  · simpa using ready.1.unstopped

theorem Ready.running_start_iff {other : Nat} (ready : Ready uses number)
    (idle : ∀ other, ¬ Running uses other) :
    Running (uses ++ [(number, .start none)]) other ↔ other = number := by
  constructor
  · rintro ⟨started, unstopped⟩
    rcases List.mem_append.mp started with before | last
    · exact absurd ⟨before, fun stopped => unstopped (List.mem_append_left _ stopped)⟩ (idle other)
    · exact (Prod.ext_iff.mp (List.mem_singleton.mp last)).1
  · rintro rfl
    exact ⟨by simp, by simpa using ready.1.unstopped⟩

theorem idle_failed_start (idle : ∀ other, ¬ Running uses other) (cause : HotkeyError) :
    ∀ other, ¬ Running (uses ++ [(number, .start (some cause))]) other := by
  rintro other ⟨started, unstopped⟩
  exact idle other ⟨by simpa using started, by simpa using unstopped⟩

theorem idle_stop (running : ∀ other, Running uses other ↔ other = number) :
    ∀ other, ¬ Running (uses ++ [(number, .stop)]) other := by
  rintro other ⟨started, unstopped⟩
  rw [List.mem_append, not_or] at unstopped
  obtain rfl := (running other).mp ⟨by simpa using started, unstopped.1⟩
  exact unstopped.2 (List.mem_singleton.mpr rfl)

end Life

end GlobalHotkeys
