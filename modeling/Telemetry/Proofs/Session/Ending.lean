import Telemetry.Proofs.Session.Visit

set_option autoImplicit false

namespace Telemetry

open Store (Database)

def SessionTimeouts.ofMode (timeouts : SessionTimeouts) (isBackground : Bool) : Nat :=
  if isBackground then timeouts.background else timeouts.foreground

structure Check where
  time : Nat
  isBackground : Bool

/-- The later of two checks reads an earlier time, or comes after more than the timeout of the mode in force
between them. -/
def IsLate (timeouts : SessionTimeouts) (a b : Check) : Prop :=
  b.time < a.time ∨ timeouts.ofMode a.isBackground < b.time - a.time

def Lapses (timeouts : SessionTimeouts) (checks : List Check) : Prop :=
  ∃ a b, [a, b] <:+: checks ∧ IsLate timeouts a b

theorem not_lapses_singleton (timeouts : SessionTimeouts) (a : Check) : ¬Lapses timeouts [a] := by
  rintro ⟨x, y, ⟨front, back, split⟩, -⟩
  have length := congrArg List.length split
  simp only [List.length_append, List.length_cons, List.length_nil] at length
  omega

theorem lapses_cons_cons (timeouts : SessionTimeouts) (a b : Check) (rest : List Check) :
    Lapses timeouts (a :: b :: rest) ↔ IsLate timeouts a b ∨ Lapses timeouts (b :: rest) := by
  constructor
  · rintro ⟨x, y, pair, late⟩
    obtain front | later := List.infix_cons_iff.1 pair
    · obtain ⟨rfl, more⟩ := List.cons_prefix_cons.1 front
      obtain ⟨rfl, -⟩ := List.cons_prefix_cons.1 more
      exact .inl late
    · exact .inr ⟨x, y, later, late⟩
  · rintro (late | ⟨x, y, pair, late⟩)
    · exact ⟨a, b, ⟨[], rest, rfl⟩, late⟩
    · exact ⟨x, y, List.infix_cons pair, late⟩

namespace SessionCall

def modeAfter : Bool → List SessionCall → Bool
  | mode, [] => mode
  | _, .setBackground isBackground _ :: rest => modeAfter isBackground rest
  | mode, _ :: rest => modeAfter mode rest

/-- The checks that calls make, from a mode on: context calls and changes of the mode read the clock. -/
def checks : Bool → List SessionCall → List Check
  | _, [] => []
  | mode, .context now _ _ _ :: rest => ⟨now, mode⟩ :: checks mode rest
  | _, .setBackground isBackground now :: rest => ⟨now, isBackground⟩ :: checks isBackground rest
  | mode, _ :: rest => checks mode rest

/-- Whether calls since an opening leave no session that a context call could go on with: it would be the
first, or since the last one a new session was asked for, or some check was late, this one included. -/
def LeaveNone (timeouts : SessionTimeouts) (calls : List SessionCall) (now : Nat) : Prop :=
  (∀ call ∈ calls, call.isContext = false) ∨
  ∃ before last since, calls = before ++ last :: since ∧ last.isContext = true ∧
    (∀ call ∈ since, call.isContext = false) ∧
    (.startNew ∈ since ∨ Lapses timeouts
      (checks (modeAfter false before) (last :: since) ++ [⟨now, modeAfter false calls⟩]))

theorem exists_last_context {calls : List SessionCall} (h : ∃ call ∈ calls, call.isContext = true) :
    ∃ before last since, calls = before ++ last :: since ∧ last.isContext = true ∧
      ∀ call ∈ since, call.isContext = false := by
  induction calls with
  | nil => simp at h
  | cons call rest ih =>
    by_cases later : ∃ call ∈ rest, call.isContext = true
    · obtain ⟨before, last, since, split, context, none⟩ := ih later
      exact ⟨call :: before, last, since, by rw [split, List.cons_append], context, none⟩
    · have none : ∀ call ∈ rest, call.isContext = false := by simpa using later
      have here : call.isContext = true := by
        obtain ⟨found, mem, context⟩ := h
        obtain rfl | mem := List.mem_cons.1 mem
        · exact context
        · rw [none found mem] at context
          cases context
      exact ⟨[], call, rest, rfl, here, none⟩

end SessionCall

namespace Session

def Starts (before after : Session) (freshId : String) : Prop :=
  after.sessionId = freshId ∧ after.index = before.index + 1 ∧ after.eventIndex = 1

def GoesOn (before after : Session) : Prop :=
  after.sessionId = before.sessionId ∧ after.index = before.index ∧ after.record = before.record ∧
    after.eventIndex = before.eventIndex + 1

theorem Starts.not_goesOn {before after : Session} {freshId : String}
    (h : before.Starts after freshId) : ¬before.GoesOn after := by
  intro same
  have more := h.2.1
  have equal := same.2.1
  omega

structure IsAt (session : Session) (timeouts : SessionTimeouts) (check : Check) : Prop where
  timeouts : session.timeouts = timeouts
  time : session.lastCheck = check.time
  mode : session.isBackground = check.isBackground

theorem IsAt.isOver_iff {session : Session} {timeouts : SessionTimeouts} {check : Check}
    (h : session.IsAt timeouts check) (now : Nat) (mode : Bool) :
    session.isOver now = true ↔
      session.startsAnew = true ∨ IsLate timeouts check ⟨now, mode⟩ := by
  have limit : session.timeout = timeouts.ofMode check.isBackground := by
    rw [timeout, h.timeouts, h.mode, SessionTimeouts.ofMode]
  unfold isOver IsLate
  rw [limit, h.time]
  simp only [Bool.or_eq_true, decide_eq_true_eq, or_assoc]

end Session

namespace Visit

open SessionCall (modeAfter checks LeaveNone)

variable {visit : Visit} {timeouts : SessionTimeouts}

/-- Between two context calls each check adds its pair to the flag: at the next one the session is over if
the flag was set before, a new session was asked for, or some pair since the last check was late. -/
theorem isOver_run {since : List SessionCall} (quiet : ∀ call ∈ since, call.isContext = false)
    (same : ∀ call ∈ since, call.isReopen = false) {check : Check}
    (h : visit.session.IsAt timeouts check) (now : Nat) (mode : Bool) :
    (visit.run since).session.isOver now = true ↔
      visit.session.startsAnew = true ∨ .startNew ∈ since ∨
        Lapses timeouts (check :: checks check.isBackground since ++ [⟨now, mode⟩]) := by
  induction since generalizing visit check with
  | nil =>
    rw [run_nil, h.isOver_iff now mode, checks, List.cons_append, List.nil_append, lapses_cons_cons]
    simp only [List.not_mem_nil, not_lapses_singleton, or_false, false_or]
  | cons call rest ih =>
    have quiet' := fun call mem => quiet call (List.mem_cons_of_mem _ mem)
    have same' := fun call mem => same call (List.mem_cons_of_mem _ mem)
    rw [run_cons]
    cases call with
    | context => cases quiet _ List.mem_cons_self
    | reopen => cases same _ List.mem_cons_self
    | startNew =>
      have at' : (visit.take .startNew).2.session.IsAt timeouts check := ⟨h.timeouts, h.time, h.mode⟩
      rw [ih quiet' same' at']
      simp [take, Session.startNew]
    | setBackground isBackground time =>
      have at' : (visit.take (.setBackground isBackground time)).2.session.IsAt timeouts
          ⟨time, isBackground⟩ := ⟨h.timeouts, rfl, rfl⟩
      -- the flag keeps what this check found, and the next pair begins with it
      have flag : (visit.take (.setBackground isBackground time)).2.session.startsAnew = true ↔
          visit.session.startsAnew = true ∨ IsLate timeouts check ⟨time, isBackground⟩ :=
        h.isOver_iff time isBackground
      rw [ih quiet' same' at', flag, checks, List.cons_append, List.cons_append, List.cons_append,
        lapses_cons_cons]
      simp only [List.mem_cons, reduceCtorEq, false_or]
      tauto
    | hide =>
      have at' : (visit.take .hide).2.session.IsAt timeouts check := ⟨h.timeouts, h.time, h.mode⟩
      rw [ih quiet' same' at']
      simp [take, checks]
    | restore =>
      have at' : (visit.take .restore).2.session.IsAt timeouts check := ⟨h.timeouts, h.time, h.mode⟩
      rw [ih quiet' same' at']
      simp [take, checks]

/-- What never changes while a session stays open: its timeouts; and its mode is the one asked for last. -/
theorem mode_run (visit : Visit) {calls : List SessionCall} (same : ∀ call ∈ calls, call.isReopen = false) :
    (visit.run calls).session.timeouts = visit.session.timeouts ∧
      (visit.run calls).session.isBackground = modeAfter visit.session.isBackground calls := by
  induction calls generalizing visit with
  | nil => exact ⟨rfl, rfl⟩
  | cons call rest ih =>
    have same' := fun call mem => same call (List.mem_cons_of_mem _ mem)
    obtain ⟨timeouts, mode⟩ := @ih (visit.take call).2 same'
    rw [run_cons, timeouts, mode]
    cases call with
    | context now freshId eventId timestamp =>
      obtain ⟨answer, session, db, taken, counts⟩ := visit.exists_counts now freshId eventId timestamp
      rw [taken]
      cases counts <;> exact ⟨rfl, rfl⟩
    | reopen => cases same _ List.mem_cons_self
    | startNew => exact ⟨rfl, rfl⟩
    | setBackground => exact ⟨rfl, rfl⟩
    | hide => exact ⟨rfl, rfl⟩
    | restore => exact ⟨rfl, rfl⟩

theorem take_context {now : Nat} {freshId eventId : String} {timestamp : Nat}
    (returned : (visit.take (.context now freshId eventId timestamp)).1 ≠ .error .sessionIndexOverflow) :
    let after := (visit.take (.context now freshId eventId timestamp)).2.session
    after.IsAt visit.session.timeouts ⟨now, visit.session.isBackground⟩ ∧
      after.startsAnew = false ∧
      (visit.session.isOver now = true ∧ visit.session.Starts after freshId ∨
        visit.session.isOver now = false ∧ visit.session.GoesOn after) := by
  obtain ⟨answer, session, db, taken, counts⟩ := visit.exists_counts now freshId eventId timestamp
  rw [taken] at returned ⊢
  cases counts with
  | goesOn running =>
    have flag := Session.startsAnew_of_running running
    exact ⟨⟨rfl, rfl, rfl⟩, flag, .inr ⟨running, rfl, rfl, rfl, rfl⟩⟩
  | exhausted => exact absurd rfl returned
  | begins lapsed => exact ⟨⟨rfl, rfl, rfl⟩, rfl, .inl ⟨lapsed, rfl, rfl, rfl⟩⟩
  | unwritten cause lapsed => exact ⟨⟨rfl, rfl, rfl⟩, rfl, .inl ⟨lapsed, rfl, rfl, rfl⟩⟩

theorem fresh_of_opened {db : Database} {freshUser : String} {opening : Nat}
    (opened : Session.open timeouts db freshUser opening = .ok (visit.session, visit.db)) :
    visit.session.startsAnew = true ∧ visit.session.isBackground = false ∧
      visit.session.timeouts = timeouts := by
  have opens := Session.open_opens opened
  generalize visit.session = session at opens ⊢
  cases opens <;> exact ⟨rfl, rfl, rfl⟩

/-- After the last context call the session is over if a new one was asked for since or a check was late. -/
theorem isOver_since {before since : List SessionCall} {last : SessionCall}
    (foreground : visit.session.isBackground = false) (limits : visit.session.timeouts = timeouts)
    (context : last.isContext = true) (silent : ∀ call ∈ since, call.isContext = false)
    (same : ∀ call ∈ before ++ last :: since, call.isReopen = false)
    (returned : ((visit.run before).take last).1 ≠ .error .sessionIndexOverflow) (now : Nat)
    (mode : Bool) :
    (visit.run (before ++ last :: since)).session.isOver now = true ↔
      .startNew ∈ since ∨
        Lapses timeouts (checks (modeAfter false before) (last :: since) ++ [⟨now, mode⟩]) := by
  rw [List.forall_mem_append, List.forall_mem_cons] at same
  obtain ⟨sameBefore, -, sameSince⟩ := same
  obtain ⟨kept, current⟩ := visit.mode_run sameBefore
  cases last with
  | context time freshId eventId timestamp =>
    obtain ⟨here, flag, -⟩ := take_context returned
    rw [kept, limits, current, foreground] at here
    have law := isOver_run silent sameSince here now mode
    rw [flag] at law
    rw [run_append, run_cons, law, checks]
    simp only [Bool.false_eq_true, false_or]
  | _ => cases context

/-- The session knows by its flag, its mode and its last check what the history says. -/
theorem isOver_iff_leaveNone {db : Database} {freshUser : String} {opening : Nat}
    (opened : Session.open timeouts db freshUser opening = .ok (visit.session, visit.db))
    {calls : List SessionCall} (same : ∀ call ∈ calls, call.isReopen = false)
    (returned : .error .sessionIndexOverflow ∉ visit.answers calls) (now : Nat) :
    (visit.run calls).session.isOver now = true ↔ LeaveNone timeouts calls now := by
  obtain ⟨anew, foreground, limits⟩ := fresh_of_opened opened
  by_cases quiet : ∀ call ∈ calls, call.isContext = false
  · have here : visit.session.IsAt timeouts ⟨visit.session.lastCheck, visit.session.isBackground⟩ :=
      ⟨limits, rfl, rfl⟩
    have lapsed := (isOver_run quiet same here now false).2 (.inl anew)
    exact ⟨fun _ => .inl quiet, fun _ => lapsed⟩
  -- whichever way the calls are split at the last context call, the session is over in the same case
  have since_last : ∀ before last since, calls = before ++ last :: since → last.isContext = true →
      (∀ call ∈ since, call.isContext = false) →
      ((visit.run calls).session.isOver now = true ↔ .startNew ∈ since ∨ Lapses timeouts
        (checks (modeAfter false before) (last :: since) ++ [⟨now, modeAfter false calls⟩])) := by
    rintro before last since rfl context silent
    rw [answers_append, answers, List.mem_append, List.mem_cons, not_or, not_or] at returned
    exact isOver_since foreground limits context silent same (Ne.symm returned.2.1) now _
  have some : ∃ call ∈ calls, call.isContext = true := by simpa using quiet
  obtain ⟨before, last, since, split, context, silent⟩ := SessionCall.exists_last_context some
  constructor
  · intro lapsed
    exact .inr ⟨before, last, since, split, context, silent,
      (since_last before last since split context silent).1 lapsed⟩
  · rintro (none | ⟨before, last, since, split, context, silent, law⟩)
    · exact absurd none quiet
    · exact (since_last before last since split context silent).2 law

/-- A session that is over is followed by none if the index would pass the largest number. -/
theorem take_context_overflows_iff {now : Nat} {freshId eventId : String} {timestamp : Nat} :
    (visit.take (.context now freshId eventId timestamp)).1 = .error .sessionIndexOverflow ↔
      visit.session.isOver now = true ∧ maxWord ≤ visit.session.index := by
  obtain ⟨answer, session, db, taken, counts⟩ := visit.exists_counts now freshId eventId timestamp
  rw [taken]
  cases counts with
  | goesOn running => simp [running, Except.map]
  | exhausted lapsed last => simp [lapsed, last, Except.map]
  | begins lapsed room =>
    have more := Nat.not_le_of_lt room
    simp [more, Except.map]
  | unwritten cause lapsed room =>
    have more := Nat.not_le_of_lt room
    simp [more, Except.map]

/-- A context call starts a session exactly if the calls before it leave none to go on with. The one case in
which it does not, and the run comes to its end there, is that the index of the session is the largest. -/
theorem starts_iff_leaveNone {db : Database} {freshUser : String} {opening : Nat}
    (opened : Session.open timeouts db freshUser opening = .ok (visit.session, visit.db))
    {calls : List SessionCall} (same : ∀ call ∈ calls, call.isReopen = false)
    (returned : .error .sessionIndexOverflow ∉ visit.answers calls) {now : Nat}
    {freshId eventId : String} {timestamp : Nat} :
    let before := visit.run calls
    let result := before.take (.context now freshId eventId timestamp)
    (result.1 = .error .sessionIndexOverflow ↔
        LeaveNone timeouts calls now ∧ maxWord ≤ before.session.index) ∧
      (result.1 ≠ .error .sessionIndexOverflow →
        (before.session.Starts result.2.session freshId ↔ LeaveNone timeouts calls now) ∧
        (before.session.GoesOn result.2.session ↔ ¬LeaveNone timeouts calls now)) := by
  rw [← isOver_iff_leaveNone opened same returned now]
  refine ⟨take_context_overflows_iff, fun inRange => ?_⟩
  obtain ⟨-, -, ⟨lapsed, starts⟩ | ⟨running, goesOn⟩⟩ := take_context inRange
  · have other := starts.not_goesOn
    exact ⟨iff_of_true starts lapsed, iff_of_false other (not_not_intro lapsed)⟩
  · have other : ¬(visit.run calls).session.Starts _ freshId := fun starts => starts.not_goesOn goesOn
    have alive : ¬(visit.run calls).session.isOver now = true := by simp [running]
    exact ⟨iff_of_false other alive, iff_of_true goesOn alive⟩

/-- Back in the foreground after a silence that only the background forbids: the session is over. -/
theorem starts_after_background :
    let visit : Visit := ⟨Session.start ⟨60000, 100⟩ none "user" 0, Database.empty⟩
    let calls : List SessionCall :=
      [.context 0 "first" "a" 0, .setBackground true 50, .setBackground false 200]
    LeaveNone ⟨60000, 100⟩ calls 210 ∧ (visit.run calls).session.Starts
      ((visit.run calls).take (.context 210 "second" "b" 210)).2.session "second" := by
  intro visit calls
  have opened : Session.open ⟨60000, 100⟩ Database.empty "user" 0 =
      .ok (visit.session, visit.db) := rfl
  have same : ∀ call ∈ calls, call.isReopen = false := by simp [calls, SessionCall.isReopen]
  have answers : visit.answers calls = [.ok (some _), .ok none, .ok none] := rfl
  have returned : .error .sessionIndexOverflow ∉ visit.answers calls := by
    rw [answers]
    simp
  have answer : ((visit.run calls).take (.context 210 "second" "b" 210)).1 = .ok (some _) := rfl
  have inRange : ((visit.run calls).take (.context 210 "second" "b" 210)).1 ≠
      .error .sessionIndexOverflow := by
    rw [answer]
    nofun
  have late : IsLate ⟨60000, 100⟩ ⟨50, true⟩ ⟨200, false⟩ := by
    right
    decide
  have none : LeaveNone ⟨60000, 100⟩ calls 210 := by
    refine .inr ⟨[], _, _, rfl, rfl, by simp [SessionCall.isContext], .inr ?_⟩
    exact ⟨_, _, ⟨[⟨0, false⟩], [⟨210, false⟩], rfl⟩, late⟩
  exact ⟨none, ((starts_iff_leaveNone opened same returned).2 inRange).1.2 none⟩

end Visit

end Telemetry
