import Mathlib.Data.List.Basic
import Mathlib.Data.List.Induction
import Mathlib.Tactic.SplitIfs
import Telemetry.Application

set_option autoImplicit false

namespace Telemetry

theorem Dictionary.lookup?_filter {α : Type} (key other : String) (entries : List (String × α)) :
    lookup? other (entries.filter (·.1 ≠ key)) = if other = key then none else lookup? other entries := by
  induction entries with
  | nil => simp [lookup?]
  | cons head rest ih =>
    by_cases gone : head.1 = key
    · rw [List.filter_cons_of_neg (by simpa using gone), ih]
      by_cases same : other = key
      · rw [if_pos same, if_pos same]
      · have apart : other ≠ head.1 := gone ▸ same
        rw [if_neg same, if_neg same, lookup?, if_neg apart]
    · rw [List.filter_cons_of_pos (by simpa using gone), lookup?, ih]
      by_cases first : other = head.1
      · rw [if_pos first, if_neg (first ▸ gone), lookup?, if_pos first]
      · rw [if_neg first, lookup?, if_neg first]

theorem Dictionary.mem_of_lookup? {α : Type} {key : String} {value : α} {entries : List (String × α)}
    (h : lookup? key entries = some value) : (key, value) ∈ entries := by
  induction entries with
  | nil => cases h
  | cons head rest ih =>
    unfold lookup? at h
    split_ifs at h with first
    · cases h
      subst first
      exact List.mem_cons_self
    · exact List.mem_cons_of_mem _ (ih h)

namespace Registry

/-- Trackers are kept under their own names, each name once, and the default is one of them. -/
structure Sound (registry : Registry) : Prop where
  ascending : Dictionary.Ascending registry.trackers
  named : ∀ entry ∈ registry.trackers, entry.2.name = entry.1
  registered : ∀ name, registry.defaultName = some name → registry.isRegistered name

variable {registry after : Registry} {tracker : Handle}

theorem find?_put (registry : Registry) (tracker : Handle) (name : String) :
    (registry.put tracker).find? name = if name = tracker.name then some tracker else registry.find? name :=
  Dictionary.lookup?_insertEntry tracker.name name tracker registry.trackers

theorem find?_remove (registry : Registry) (name other : String) :
    (registry.remove name).2.find? other = if other = name then none else registry.find? other :=
  Dictionary.lookup?_filter name other registry.trackers

theorem Sound.name_of_find? (h : registry.Sound) {name : String} (found : registry.find? name = some tracker) :
    tracker.name = name :=
  h.named _ (Dictionary.mem_of_lookup? found)

theorem sound_empty : empty.Sound := ⟨List.Pairwise.nil, nofun, nofun⟩

theorem Sound.default?_eq_none_iff (h : registry.Sound) :
    registry.default? = none ↔ registry.defaultName = none := by
  unfold default?
  cases set : registry.defaultName with
  | none => simp
  | some name =>
    have found := h.registered name set
    rw [isRegistered] at found
    simp [Option.isSome_iff_ne_none.1 found]

theorem Sound.default?_eq_some_iff (h : registry.Sound) : registry.default? = some tracker ↔
    registry.defaultName = some tracker.name ∧ registry.find? tracker.name = some tracker := by
  unfold default?
  constructor
  · intro found
    obtain ⟨name, set, found⟩ := Option.bind_eq_some_iff.1 found
    obtain rfl := h.name_of_find? found
    exact ⟨set, found⟩
  · rintro ⟨set, found⟩
    rw [set, Option.bind_some, found]

theorem isRegistered_iff {name : String} :
    registry.isRegistered name ↔ ∃ tracker, registry.find? name = some tracker := by
  rw [isRegistered, Option.isSome_iff_exists]

theorem Sound.put (h : registry.Sound) (tracker : Handle) {defaultName : Option String}
    (among : ∀ name, defaultName = some name → name = tracker.name ∨ registry.defaultName = some name) :
    Sound { registry.put tracker with defaultName } := by
  refine ⟨Dictionary.insertEntry_ascending _ _ h.ascending, ?_, ?_⟩
  · intro entry hentry
    rcases Dictionary.mem_insertEntry hentry with rfl | old
    · rfl
    · exact h.named entry old
  · intro name set
    have found := find?_put registry tracker name
    rw [isRegistered_iff]
    by_cases own : name = tracker.name
    · rw [if_pos own] at found
      exact ⟨tracker, found⟩
    · rw [if_neg own] at found
      obtain ⟨other, hother⟩ := isRegistered_iff.1 (h.registered name ((among name set).resolve_left own))
      exact ⟨other, found.trans hother⟩

theorem Sound.remove (h : registry.Sound) (name : String) : (registry.remove name).2.Sound := by
  refine ⟨h.ascending.filter _, ?_, ?_⟩
  · intro entry hentry
    exact h.named entry (List.mem_filter.1 hentry |>.1)
  · intro other set
    obtain ⟨old, apart⟩ := Option.filter_eq_some_iff.1 set
    rw [isRegistered, find?_remove, if_neg (by simpa using apart)]
    exact h.registered other old

theorem register_ok (h : registry.register tracker = .ok after) : registry.find? tracker.name = none ∧
    after = { registry.put tracker with
      defaultName := some (registry.defaultName.getD tracker.name) } := by
  unfold register at h
  split_ifs at h with taken
  cases h
  rw [isRegistered, Bool.not_eq_true, Option.isSome_eq_false_iff, Option.isNone_iff_eq_none] at taken
  exact ⟨taken, rfl⟩

theorem setDefault_ok (h : registry.setDefault tracker = .ok after) :
    (registry.find? tracker.name = some tracker ∧
      after = { registry with defaultName := some tracker.name }) ∨
    (registry.find? tracker.name = none ∧
      after = { registry.put tracker with defaultName := some tracker.name }) := by
  unfold setDefault at h
  split at h
  · rename_i found present
    split_ifs at h with same
    cases h
    subst same
    exact .inl ⟨present, rfl⟩
  · rename_i absent
    cases h
    exact .inr ⟨absent, rfl⟩

end Registry

/-- What happens to an application: calls on the registry, work of the trackers, and changes around it. -/
inductive Call where
  | create (plan : Plan)
  | make (plan : Plan)
  | register (tracker : Handle)
  | setDefault (tracker : Handle)
  | remove (name : String)
  | find (name : String)
  | default
  | track (number : Nat) (event : Event)
  | wait (ms : Nat)
  | around (environment : Environment) (clock : Nat) (files : Store.Files)

namespace Application

def take (app : Application) : Call → Except TrackerError (Option Handle) × Application
  | .create plan => ((app.create plan).1.map some, (app.create plan).2)
  | .make plan => ((app.make plan).1.map some, (app.make plan).2)
  | .register tracker =>
    match app.registry.register tracker with
    | .ok registry => (.ok none, { app with registry })
    | .error cause => (.error cause, app)
  | .setDefault tracker =>
    match app.registry.setDefault tracker with
    | .ok registry => (.ok none, { app with registry })
    | .error cause => (.error cause, app)
  | .remove name => (.ok (app.registry.remove name).1, { app with registry := (app.registry.remove name).2 })
  | .find name => (.ok (app.registry.find? name), app)
  | .default => (.ok app.registry.default?, app)
  | .track number event =>
    match app.track number event with
    | some (result, app) => (result.map fun _ => none, app)
    | none => (.ok none, app)
  | .wait ms => (.ok none, app.wait ms)
  | .around environment clock files => (.ok none, { app with environment, clock, files })

def run (app : Application) (calls : List Call) : Application :=
  calls.foldl (fun app call => (app.take call).2) app

/-- The tracker that a call makes the default: by choosing it, or by registering it while there is none. -/
def nominee? (app : Application) (call : Call) : Option Handle :=
  match call, (app.take call).1 with
  | .setDefault tracker, .ok _ => some tracker
  | .register tracker, .ok _ => if app.registry.defaultName = none then some tracker else none
  | .create _, .ok (some tracker) => if app.registry.defaultName = none then some tracker else none
  | _, _ => none

/-- Whether a tracker was the last that a call made the default, and has not been removed since. -/
def LastNominee (app : Application) (calls : List Call) (tracker : Handle) : Prop :=
  ∃ before call after, calls = before ++ call :: after ∧ (app.run before).nominee? call = some tracker ∧
    (∀ inner later rest, after = inner ++ later :: rest →
      (app.run (before ++ call :: inner)).nominee? later = none) ∧
    Call.remove tracker.name ∉ after

inductive Changes (registry : Registry) : Call → Option Handle → Registry → Prop
  | nothing {call : Call} (stays : ∀ name, call ≠ .remove name) : Changes registry call none registry
  | register {call : Call} {tracker : Handle} {after : Registry} (stays : ∀ name, call ≠ .remove name)
      (done : registry.register tracker = .ok after) :
      Changes registry call (if registry.defaultName = none then some tracker else none) after
  | setDefault {tracker : Handle} {after : Registry} (done : registry.setDefault tracker = .ok after) :
      Changes registry (.setDefault tracker) (some tracker) after
  | remove (name : String) : Changes registry (.remove name) none (registry.remove name).2

variable {app : Application}

theorem run_concat (app : Application) (calls : List Call) (call : Call) :
    app.run (calls ++ [call]) = ((app.run calls).take call).2 := by
  rw [run, List.foldl_append]
  rfl

theorem registry_make (app : Application) (plan : Plan) : (app.make plan).2.registry = app.registry := by
  unfold make
  dsimp only
  split <;> rfl

/-- A tracker is made for the registry to keep, or the registry stays as it is. -/
theorem create_cases (app : Application) (plan : Plan) :
    (∃ cause, (app.create plan).1 = .error cause ∧ (app.create plan).2.registry = app.registry) ∨
    ∃ tracker, (app.create plan).1 = .ok tracker ∧
      app.registry.register tracker = .ok (app.create plan).2.registry := by
  have same := registry_make app plan
  unfold create
  split_ifs with taken
  · exact .inl ⟨_, rfl, rfl⟩
  · split
    · rename_i cause made unmade
      rw [unmade] at same
      exact .inl ⟨cause, rfl, same⟩
    · rename_i tracker made done
      rw [done] at same
      rw [same]
      cases kept : app.registry.register tracker with
      | error cause => exact .inl ⟨cause, rfl, same⟩
      | ok registry => exact .inr ⟨tracker, rfl, kept⟩

theorem registry_act {α : Type} {number : Nat} {action : Station → α × Station} {result : α}
    {after : Application} (h : app.act number action = some (result, after)) :
    after.registry = app.registry := by
  obtain ⟨station, -, same⟩ := Option.map_eq_some_iff.1 h
  rw [← (Prod.mk.inj same).2]

theorem registry_track {number : Nat} {event : Event} {result : Except TrackerError String}
    {after : Application} (h : app.track number event = some (result, after)) :
    after.registry = app.registry := by
  obtain ⟨⟨_, between⟩, acted, same⟩ := Option.map_eq_some_iff.1 h
  have kept := registry_act acted
  rw [← (Prod.mk.inj same).2]
  exact kept

theorem registry_wait (app : Application) (ms : Nat) : (app.wait ms).registry = app.registry := by
  unfold wait
  induction List.range app.stations.length generalizing app with
  | nil => rfl
  | cons number rest ih =>
    rw [List.foldl_cons, ih]
    unfold waitOne
    split
    · rename_i after acted
      exact registry_act acted
    · rfl

theorem registry_of_error {call : Call} {cause : TrackerError} (h : (app.take call).1 = .error cause) :
    (app.take call).2.registry = app.registry := by
  cases call with
  | create plan =>
    obtain ⟨_, -, same⟩ | ⟨tracker, made, -⟩ := create_cases app plan
    · exact same
    · rw [take, made] at h
      cases h
  | make plan => exact registry_make app plan
  | register tracker | setDefault tracker =>
    unfold take at h ⊢
    dsimp only at h ⊢
    split at h
    · cases h
    · rfl
  | remove name | find name | default | wait ms | around environment clock files => cases h
  | track number event =>
    unfold take
    dsimp only
    split
    · rename_i tracked
      exact registry_track tracked
    · rfl

theorem take_changes (app : Application) (call : Call) :
    Changes app.registry call (app.nominee? call) (app.take call).2.registry := by
  cases call with
  | create plan =>
    obtain ⟨cause, failed, same⟩ | ⟨tracker, made, done⟩ := create_cases app plan
    · simp only [nominee?, take, failed, Except.map, same]
      exact .nothing nofun
    · simp only [nominee?, take, made, Except.map]
      exact .register nofun done
  | make plan =>
    simp only [nominee?, take, registry_make]
    exact .nothing nofun
  | register tracker =>
    simp only [nominee?, take]
    cases done : app.registry.register tracker with
    | error cause => exact .nothing nofun
    | ok registry => exact .register nofun done
  | setDefault tracker =>
    simp only [nominee?, take]
    cases done : app.registry.setDefault tracker with
    | error cause => exact .nothing nofun
    | ok registry => exact .setDefault done
  | remove name => exact .remove name
  | track number event =>
    simp only [nominee?, take]
    split
    · rename_i tracked
      rw [registry_track tracked]
      exact .nothing nofun
    · exact .nothing nofun
  | wait ms =>
    simp only [nominee?, take, registry_wait]
    exact .nothing nofun
  | find name | default | around environment clock files => exact .nothing nofun

variable {registry after : Registry} {call : Call} {nominee : Option Handle}

theorem Changes.sound (h : Changes registry call nominee after) (sound : registry.Sound) :
    after.Sound := by
  cases h with
  | nothing => exact sound
  | register _ done =>
    obtain ⟨-, rfl⟩ := Registry.register_ok done
    apply sound.put
    intro name set
    cases already : registry.defaultName with
    | none =>
      rw [already] at set
      exact .inl (Option.some.inj set).symm
    | some other =>
      rw [already] at set
      exact .inr set
  | setDefault done =>
    obtain ⟨present, rfl⟩ | ⟨-, rfl⟩ := Registry.setDefault_ok done
    · refine ⟨sound.ascending, sound.named, ?_⟩
      intro name set
      cases set
      exact Registry.isRegistered_iff.2 ⟨_, present⟩
    · apply sound.put
      intro name set
      exact .inl (Option.some.inj set).symm
  | remove name => exact sound.remove name

/-- A tracker stays where it is registered, unless it is removed. -/
theorem Changes.find? (h : Changes registry call nominee after) {name : String} {tracker : Handle}
    (found : registry.find? name = some tracker) (stays : call ≠ .remove name) :
    after.find? name = some tracker := by
  have put : ∀ other : Handle, registry.find? other.name = none →
      (registry.put other).find? name = some tracker := by
    intro other free
    rw [Registry.find?_put, if_neg, found]
    rintro rfl
    rw [free] at found
    cases found
  cases h with
  | nothing => exact found
  | register _ done =>
    obtain ⟨free, rfl⟩ := Registry.register_ok done
    exact put _ free
  | setDefault done =>
    obtain ⟨-, rfl⟩ | ⟨free, rfl⟩ := Registry.setDefault_ok done
    · exact found
    · exact put _ free
  | remove other =>
    rw [Registry.find?_remove, if_neg, found]
    rintro rfl
    exact stays rfl

/-- A tracker that a call makes the default is found under its name. -/
theorem Changes.default?_of_nominee (h : Changes registry call nominee after) (sound : registry.Sound)
    {tracker : Handle} (nominated : nominee = some tracker) : after.default? = some tracker := by
  apply (h.sound sound).default?_eq_some_iff.2
  have put : ∀ defaultName, Registry.find? { registry.put tracker with defaultName } tracker.name =
      some tracker := by
    intro defaultName
    exact (Registry.find?_put registry tracker tracker.name).trans (if_pos rfl)
  cases h with
  | nothing | remove => cases nominated
  | register _ done =>
    split_ifs at nominated with none
    cases nominated
    obtain ⟨-, rfl⟩ := Registry.register_ok done
    rw [none]
    exact ⟨rfl, put _⟩
  | setDefault done =>
    cases nominated
    obtain ⟨present, rfl⟩ | ⟨-, rfl⟩ := Registry.setDefault_ok done
    · exact ⟨rfl, present⟩
    · exact ⟨rfl, put _⟩

/-- A call that makes no tracker the default takes the default away only by removing it. -/
theorem Changes.defaultName_iff (h : Changes registry call nominee after) (none : nominee = none)
    (name : String) : after.defaultName = some name ↔
      registry.defaultName = some name ∧ call ≠ .remove name := by
  cases h with
  | nothing stays => exact ⟨fun set => ⟨set, stays name⟩, fun set => set.1⟩
  | register stays done =>
    split_ifs at none with free
    obtain ⟨-, rfl⟩ := Registry.register_ok done
    obtain ⟨other, set⟩ := Option.ne_none_iff_exists'.1 free
    rw [set]
    exact ⟨fun same => ⟨same, stays name⟩, fun same => same.1⟩
  | setDefault => cases none
  | remove removed =>
    rw [Registry.remove, Option.filter_eq_some_iff, decide_eq_true_iff, ne_eq, ne_eq, Call.remove.injEq,
      eq_comm (a := name)]

theorem Changes.default?_iff (h : Changes registry call nominee after) (sound : registry.Sound)
    {tracker : Handle} : after.default? = some tracker ↔
      nominee = some tracker ∨
        nominee = none ∧ registry.default? = some tracker ∧ call ≠ .remove tracker.name := by
  cases chosen : nominee with
  | some other =>
    rw [h.default?_of_nominee sound chosen]
    simp
  | none =>
    rw [(h.sound sound).default?_eq_some_iff, sound.default?_eq_some_iff, h.defaultName_iff chosen]
    constructor
    · rintro ⟨⟨set, stays⟩, found⟩
      obtain ⟨other, present⟩ := Registry.isRegistered_iff.1 (sound.registered _ set)
      have same := (h.find? present stays).symm.trans found
      rw [same] at present
      exact .inr ⟨rfl, ⟨set, present⟩, stays⟩
    · rintro (absurd | ⟨-, ⟨set, found⟩, stays⟩)
      · cases absurd
      · exact ⟨⟨set, stays⟩, h.find? found stays⟩

theorem sound_run (sound : app.registry.Sound) (calls : List Call) : (app.run calls).registry.Sound := by
  induction calls using List.reverseRecOn with
  | nil => exact sound
  | append_singleton calls call ih =>
    rw [run_concat]
    exact (take_changes _ call).sound ih

theorem find?_run {name : String} {tracker : Handle} (found : app.registry.find? name = some tracker)
    {calls : List Call} (stays : Call.remove name ∉ calls) :
    (app.run calls).registry.find? name = some tracker := by
  induction calls using List.reverseRecOn with
  | nil => exact found
  | append_singleton calls call ih =>
    rw [List.mem_append, not_or, List.mem_singleton] at stays
    rw [run_concat]
    exact (take_changes _ call).find? (ih stays.1) (Ne.symm stays.2)

theorem lastNominee_concat (app : Application) (calls : List Call) (call : Call) (tracker : Handle) :
    app.LastNominee (calls ++ [call]) tracker ↔
      (app.run calls).nominee? call = some tracker ∨
        (app.run calls).nominee? call = none ∧ app.LastNominee calls tracker ∧
          call ≠ .remove tracker.name := by
  constructor
  · rintro ⟨before, chosen, after, split, nominated, last, stays⟩
    rcases List.eq_nil_or_concat' after with rfl | ⟨after, final, rfl⟩
    · obtain ⟨rfl, same⟩ := List.append_inj' split rfl
      cases same
      exact .inl nominated
    · rw [← List.cons_append, ← List.append_assoc] at split
      obtain ⟨rfl, same⟩ := List.append_inj' split rfl
      cases same
      rw [List.mem_append, not_or, List.mem_singleton] at stays
      refine .inr ⟨last after call [] rfl, ?_, Ne.symm stays.2⟩
      refine ⟨before, chosen, after, rfl, nominated, ?_, stays.1⟩
      intro inner later rest same
      exact last inner later (rest ++ [call]) (by rw [same]; simp)
  · rintro (nominated | ⟨none, ⟨before, chosen, after, rfl, nominated, last, stays⟩, kept⟩)
    · refine ⟨calls, call, [], rfl, nominated, ?_, List.not_mem_nil⟩
      intro inner later rest same
      simp at same
    · refine ⟨before, chosen, after ++ [call], by simp, nominated, ?_, ?_⟩
      · intro inner later rest same
        rcases List.eq_nil_or_concat' rest with rfl | ⟨rest, final, rfl⟩
        · obtain ⟨rfl, here⟩ := List.append_inj' same rfl
          rw [← (List.cons.inj here).1]
          exact none
        · rw [← List.cons_append, ← List.append_assoc] at same
          exact last inner later rest (List.append_inj' same rfl).1
      · rw [List.mem_append, not_or, List.mem_singleton]
        exact ⟨stays, Ne.symm kept⟩

/-- The default tracker is the last one that was made the default, unless it has been removed. -/
theorem default?_run_iff (sound : app.registry.Sound) (none : app.registry.default? = none)
    (calls : List Call) (tracker : Handle) :
    (app.run calls).registry.default? = some tracker ↔ app.LastNominee calls tracker := by
  induction calls using List.reverseRecOn generalizing tracker with
  | nil =>
    rw [run, List.foldl_nil, none]
    constructor
    · intro found
      cases found
    · rintro ⟨before, call, after, split, -⟩
      simp at split
  | append_singleton calls call ih =>
    rw [run_concat, (take_changes _ call).default?_iff (sound_run sound calls), lastNominee_concat, ih]

/-- What a registry keeps to while calls are made. -/
structure Registers (app : Application) (calls : List Call) : Prop where
  named : ∀ entry ∈ (app.run calls).registry.trackers, entry.2.name = entry.1
  ascending : Dictionary.Ascending (app.run calls).registry.trackers
  registered : ∀ name, (app.run calls).registry.defaultName = some name →
    (app.run calls).registry.isRegistered name
  default_none : (app.run calls).registry.default? = none ↔ (app.run calls).registry.defaultName = none
  fails : ∀ call cause, ((app.run calls).take call).1 = .error cause →
    (app.run (calls ++ [call])).registry = (app.run calls).registry
  stays : ∀ before after name tracker, calls = before ++ after →
    (app.run before).registry.find? name = some tracker → Call.remove name ∉ after →
      (app.run calls).registry.find? name = some tracker
  default_iff : ∀ tracker, (app.run calls).registry.default? = some tracker ↔
    app.LastNominee calls tracker

/-- What holds of a registry that was empty, after any calls. -/
theorem registers_run (app : Application) (calls : List Call) :
    Registers { app with registry := .empty } calls := by
  have sound : (run { app with registry := .empty } calls).registry.Sound :=
    sound_run Registry.sound_empty calls
  refine ⟨sound.named, sound.ascending, sound.registered, sound.default?_eq_none_iff, ?_, ?_, ?_⟩
  case refine_1 =>
    intro call cause failed
    rw [run_concat]
    exact registry_of_error failed
  case refine_2 =>
    rintro before after name tracker rfl found stays
    rw [run, List.foldl_append]
    exact find?_run found stays
  case refine_3 => exact default?_run_iff Registry.sound_empty rfl calls

end Application

end Telemetry
