import Telemetry.Proofs.Session.Visit

set_option autoImplicit false

namespace Telemetry

open Store (Cell Database)

/-- An object whose members name a user and a session and number it with an unsigned word. -/
structure Json.Tells (record : Json) (last : Restored) : Prop where
  userId : record.member? "userId" = some (.string last.userId)
  sessionId : record.member? "sessionId" = some (.string last.sessionId)
  index : record.member? "sessionIndex" = some (.int last.index)
  small : last.index ≤ maxWord

theorem Json.string?_eq_some_iff {value : Json} {text : String} :
    value.string? = some text ↔ value = .string text := by
  cases value <;> simp [string?]

theorem Json.unsigned?_eq_some_iff {value : Json} {n : Nat} :
    value.unsigned? = some n ↔ value = .int n ∧ n ≤ maxWord := by
  cases value with
  | int number =>
    simp only [unsigned?, Option.ite_none_right_eq_some, Option.some.injEq, Json.int.injEq]
    omega
  | null | bool | float | string | array | object => simp [unsigned?]

theorem Restored.ofJson?_eq_some_iff {record : Json} {last : Restored} :
    ofJson? record = some last ↔ record.Tells last := by
  simp only [ofJson?, Option.bind_eq_bind, Option.bind_eq_some_iff, Json.string?_eq_some_iff,
    Json.unsigned?_eq_some_iff, Option.some.injEq]
  constructor
  · rintro ⟨_, ⟨_, user, rfl⟩, _, ⟨_, session, rfl⟩, _, ⟨_, number, rfl, small⟩, rfl⟩
    exact ⟨user, session, number, small⟩
  · rintro ⟨user, session, number, small⟩
    exact ⟨_, ⟨_, user, rfl⟩, _, ⟨_, session, rfl⟩, _, ⟨_, number, rfl, small⟩, rfl⟩

namespace Store.Database

/-- The row of the session record is in reach and holds this text, or there is no row. -/
def Holds (db : Database) (content : Option String) : Prop :=
  db.session.present = some (content.map Cell.text)

theorem Holds.present {db : Database} {content : Option String} (held : db.Holds content) :
    db.session.present.isSome := Option.isSome_of_eq_some held

theorem holds_filed (db : Database) (record : Json) :
    (db.filed record).Holds (some record.text) := rfl

theorem getSession_of_holds {db : Database} {content : Option String} (held : db.Holds content) :
    db.getSession = match content with
      | none => .ok none
      | some text => match Json.ofText? text with
        | some record => .ok (some record)
        | none => .error .serialization := by
  rw [getSession, held]
  cases content <;> rfl

def forgotten (db : Database) : Database := { db with session := { db.session with present := some none } }

theorem deleteSession_of_present {db : Database} (present : db.session.present.isSome) :
    db.deleteSession = .ok db.forgotten := by
  obtain ⟨cell, present⟩ := Option.isSome_iff_exists.1 present
  rw [deleteSession, Shelf.write?, present]
  rfl

theorem forgotten_of_holds_none {db : Database} (held : db.Holds none) : db.forgotten = db := by
  have present : db.session.present = some none := held
  rw [forgotten, ← present]

end Store.Database

namespace Session

/-- A stored text that reads as a record to go on from. -/
def Tells (content : Option String) (last : Restored) : Prop :=
  ∃ text record, content = some text ∧ Json.ofText? text = some record ∧ record.Tells last

variable {db : Database} {content : Option String}

theorem open_of_tells {last : Restored} (held : db.Holds content) (tells : Tells content last)
    (timeouts : SessionTimeouts) (freshUser : String) (opening : Nat) :
    Session.open timeouts db freshUser opening =
      .ok (start timeouts (some last) freshUser opening, db) := by
  obtain ⟨text, record, rfl, read, tells⟩ := tells
  have restored := Restored.ofJson?_eq_some_iff.2 tells
  rw [Session.open, Database.getSession_of_holds held]
  simp only [read, restored]

theorem open_of_untold (held : db.Holds content) (untold : ∀ last, ¬Tells content last)
    (timeouts : SessionTimeouts) (freshUser : String) (opening : Nat) :
    Session.open timeouts db freshUser opening =
      .ok (start timeouts (some ⟨freshUser, "", 0⟩) freshUser opening, db.forgotten) := by
  have deleted := Database.deleteSession_of_present held.present
  rw [Session.open, Database.getSession_of_holds held]
  cases content with
  | none =>
    rw [Database.forgotten_of_holds_none held]
    rfl
  | some text =>
    cases read : Json.ofText? text with
    | none =>
      simp only [read, deleted]
      rfl
    | some record =>
      have unread : Restored.ofJson? record = none := by
        refine Option.eq_none_iff_forall_ne_some.2 fun last restored => ?_
        exact untold last ⟨text, record, rfl, read, Restored.ofJson?_eq_some_iff.1 restored⟩
      simp only [read, unread, deleted]
      rfl

theorem tells_json {record : SessionRecord} (small : record.index ≤ maxWord) :
    Tells (some record.json.text) ⟨record.userId, record.sessionId, record.index⟩ :=
  ⟨_, _, rfl, SessionRecord.ofText?_json small,
    Restored.ofJson?_eq_some_iff.1 (SessionRecord.restored_json small)⟩

def recordAfter (userId : String) (previousId : Option String) (index : Nat) (freshId eventId : String)
    (timestamp : Nat) : SessionRecord where
  userId := userId
  sessionId := freshId
  index := index + 1
  previousId := previousId
  firstEventId := nonEmpty? eventId
  firstTimestamp := Calendar.dateTimeText timestamp

section

variable {last : Restored} (timeouts : SessionTimeouts) (freshUser : String) (opening : Nat)

theorem context_of_room (room : last.index < maxWord) (present : db.session.present.isSome) (now : Nat)
    (freshId eventId : String) (timestamp : Nat) :
    let session := start timeouts (some last) freshUser opening
    let record := recordAfter last.userId (nonEmpty? last.sessionId) last.index freshId eventId timestamp
    session.context db now freshId eventId timestamp =
      (.ok (record.entity 1), session.begun now freshId eventId timestamp, db.filed record.json) := by
  intro session record
  have lapsed : session.isOver now = true := rfl
  have written : (session.begun now freshId eventId timestamp).store db = .ok (db.filed record.json) := by
    rw [store, Database.setSession_of_present present]
    rfl
  rw [context, countEvent_of_lapsed lapsed room]
  simp only [written]
  rfl

theorem context_of_full (db : Database) (full : last.index = maxWord) (now : Nat)
    (freshId eventId : String) (timestamp : Nat) :
    let session := start timeouts (some last) freshUser opening
    session.context db now freshId eventId timestamp = (.error .sessionIndexOverflow, session, db) := by
  intro session
  have lapsed : session.isOver now = true := rfl
  rw [context, countEvent_of_exhausted lapsed (Nat.le_of_eq full.symm)]

end

/-- How a session goes on from the last one of a user: its first context is of the next one, and leaves a
record that every further opening goes on from. -/
structure GoesOnFrom (session : Session) (db : Database) (userId : String) (previousId : Option String)
    (index : Nat) : Prop where
  counts_iff : ∀ now freshId eventId timestamp,
    (∃ entity, (session.context db now freshId eventId timestamp).1 = .ok entity) ↔ index ≠ maxWord
  exhausted : index = maxWord → ∀ now freshId eventId timestamp,
    session.context db now freshId eventId timestamp = (.error .sessionIndexOverflow, session, db)
  counted : ∀ now freshId eventId timestamp entity,
    (session.context db now freshId eventId timestamp).1 = .ok entity →
      entity = (recordAfter userId previousId index freshId eventId timestamp).entity 1
  continued : ∀ now freshId eventId timestamp entity,
    (session.context db now freshId eventId timestamp).1 = .ok entity →
      let after := (session.context db now freshId eventId timestamp).2.2
      after.Holds (some (recordAfter userId previousId index freshId eventId timestamp).json.text) ∧
        ∀ timeouts freshUser opening, Session.open timeouts after freshUser opening =
          .ok (start timeouts (some ⟨userId, freshId, index + 1⟩) freshUser opening, after)

theorem start_goesOnFrom {last : Restored} (small : last.index ≤ maxWord)
    (present : db.session.present.isSome) (timeouts : SessionTimeouts) (freshUser : String)
    (opening : Nat) :
    (start timeouts (some last) freshUser opening).GoesOnFrom db last.userId (nonEmpty? last.sessionId)
      last.index := by
  by_cases full : last.index = maxWord
  · have context := context_of_full timeouts freshUser opening db full
    exact ⟨by simp [context, full], fun _ => context, by simp [context], by simp [context]⟩
  · have room : last.index < maxWord := Nat.lt_of_le_of_ne small full
    have context := context_of_room timeouts freshUser opening room present
    refine ⟨by simp [context, full], fun no => absurd no full, ?_, ?_⟩
    · intro now freshId eventId timestamp entity told
      rw [context] at told
      cases told
      rfl
    · intro now freshId eventId timestamp entity told after
      rw [show after = db.filed _ from congrArg (·.2.2) (context now freshId eventId timestamp)]
      refine ⟨Database.holds_filed _ _, fun timeouts freshUser opening => ?_⟩
      exact open_of_tells (Database.holds_filed _ _) (tells_json (Nat.succ_le_of_lt room)) timeouts
        freshUser opening

/-- A session opens on every stored text. A record that it can read is gone on from, with the row as it was; any
other text is deleted and the user a new one. The next session counts one further, and there is one unless the
record tells the largest 64-bit number. -/
theorem opens_on_any_text (held : db.Holds content) (timeouts : SessionTimeouts) (freshUser : String)
    (opening : Nat) :
    (∀ last, Tells content last →
      ∃ session, Session.open timeouts db freshUser opening = .ok (session, db) ∧
        session.GoesOnFrom db last.userId (nonEmpty? last.sessionId) last.index) ∧
    ((∀ last, ¬Tells content last) →
      ∃ session after, Session.open timeouts db freshUser opening = .ok (session, after) ∧
        after.Holds none ∧ after.events = db.events ∧ session.GoesOnFrom after freshUser none 0) := by
  constructor
  · intro last tells
    have small : last.index ≤ maxWord := by
      obtain ⟨text, record, -, -, readable⟩ := tells
      exact readable.small
    exact ⟨_, open_of_tells held tells timeouts freshUser opening,
      start_goesOnFrom small held.present timeouts freshUser opening⟩
  · intro untold
    exact ⟨_, _, open_of_untold held untold timeouts freshUser opening, rfl, rfl,
      start_goesOnFrom (Nat.zero_le _) rfl timeouts freshUser opening⟩

structure Restart where
  timeouts : SessionTimeouts
  freshUser : String
  opening : Nat
  now : Nat
  freshId : String
  eventId : String
  timestamp : Nat

namespace Restart

def take (restart : Restart) (db : Database) : Except TrackerError SelfDescribing × Database :=
  match Session.open restart.timeouts db restart.freshUser restart.opening with
  | .error cause => (.error (.storage cause), db)
  | .ok (session, opened) =>
    let (answer, _, after) :=
      session.context opened restart.now restart.freshId restart.eventId restart.timestamp
    (answer, after)

/-- What one run of the program after the other is answered. -/
def answers (db : Database) : List Restart → List (Except TrackerError SelfDescribing)
  | [] => []
  | restart :: rest => (restart.take db).1 :: answers (restart.take db).2 rest

def records (last : Restored) : List Restart → List SessionRecord
  | [] => []
  | restart :: rest =>
    recordAfter last.userId (nonEmpty? last.sessionId) last.index restart.freshId restart.eventId
        restart.timestamp ::
      records ⟨last.userId, restart.freshId, last.index + 1⟩ rest

variable {last : Restored}

theorem take_of_room (restart : Restart) (held : db.Holds content) (tells : Tells content last)
    (room : last.index < maxWord) :
    let record := recordAfter last.userId (nonEmpty? last.sessionId) last.index restart.freshId
      restart.eventId restart.timestamp
    restart.take db = (.ok (record.entity 1), db.filed record.json) := by
  intro record
  simp only [take, open_of_tells held tells, context_of_room _ _ _ room held.present, record]

theorem take_of_full (restart : Restart) (held : db.Holds content) (tells : Tells content last)
    (full : last.index = maxWord) : restart.take db = (.error .sessionIndexOverflow, db) := by
  simp only [take, open_of_tells held tells, context_of_full _ _ _ _ full]

/-- Run after run counts one session further, of the same user, until the indices are used up. From then on the
program gets no context any more: the record that stops it stays. -/
theorem answers_eq (restarts : List Restart) (held : db.Holds content) (tells : Tells content last)
    (small : last.index ≤ maxWord) :
    answers db restarts =
      ((records last restarts).take (maxWord - last.index)).map (fun record => .ok (record.entity 1)) ++
        List.replicate (restarts.length - (maxWord - last.index)) (.error .sessionIndexOverflow) := by
  induction restarts generalizing db content last with
  | nil => simp [answers, records]
  | cons restart rest ih =>
    by_cases full : last.index = maxWord
    · have later := ih held tells small
      simp only [full, Nat.sub_self, List.take_zero, List.map_nil, List.nil_append, Nat.sub_zero] at later
      rw [answers, take_of_full restart held tells full, later]
      simp [full, List.replicate_succ]
    · have room : last.index < maxWord := Nat.lt_of_le_of_ne small full
      have left : maxWord - last.index = (maxWord - (last.index + 1)) + 1 := by omega
      let record := recordAfter last.userId (nonEmpty? last.sessionId) last.index restart.freshId
        restart.eventId restart.timestamp
      have small : record.index ≤ maxWord := room
      have later := ih (Database.holds_filed db _) (tells_json small) small
      rw [answers, take_of_room restart held tells room, later, records, left, List.take_succ_cons,
        List.map_cons, List.length_cons, Nat.add_sub_add_right]
      rfl

end Restart

def numbered (index : Nat) : Json :=
  .object [("sessionId", .string "s"), ("sessionIndex", Json.nat index), ("userId", .string "u")]

theorem tells_numbered {index : Nat} (small : index ≤ maxWord) :
    Tells (some (numbered index).text) ⟨"u", "s", index⟩ := by
  have low : -(leastSignedMagnitude : Int) ≤ (index : Int) := by omega
  have high : (index : Int) ≤ maxWord := by omega
  have plain : (numbered index).IsPlain Json.maxDepth := by
    have keys : ["sessionId", "sessionIndex", "userId"].Pairwise (· < ·) := by decide
    exact ⟨List.pairwise_map.1 keys, by simp [Json.MembersPlain, Json.IsPlain, Json.nat, low, high]⟩
  exact ⟨_, _, rfl, Json.ofText?_text plain, rfl, rfl, rfl, small⟩

theorem opens_on_any_text_numbered :
    ∃ session, Session.open .default (Database.empty.filed (numbered 41)) "user" 0 =
        .ok (session, Database.empty.filed (numbered 41)) ∧
      ∃ entity, (session.context (Database.empty.filed (numbered 41)) 5 "next" "event" 0).1 = .ok entity ∧
        entity = (recordAfter "u" (some "s") 41 "next" "event" 0).entity 1 := by
  obtain ⟨session, opened, goesOn⟩ :=
    (opens_on_any_text (Database.holds_filed Database.empty (numbered 41)) .default "user" 0).1
      ⟨"u", "s", 41⟩ (tells_numbered (by decide))
  obtain ⟨entity, told⟩ := (goesOn.counts_iff 5 "next" "event" 0).2 (by decide)
  exact ⟨session, opened, entity, told, goesOn.counted _ _ _ _ _ told⟩

theorem not_always_counted :
    ¬∀ (db opened : Database) (content : Option String) (timeouts : SessionTimeouts) (session : Session)
        (freshUser freshId eventId : String) (opening now timestamp : Nat),
      db.Holds content → Session.open timeouts db freshUser opening = .ok (session, opened) →
        ∃ entity, (session.context opened now freshId eventId timestamp).1 = .ok entity := by
  intro law
  have text : (numbered maxWord).text =
      "\x7b\"sessionId\":\"s\",\"sessionIndex\":18446744073709551615,\"userId\":\"u\"\x7d" := by decide +kernel
  have held := text ▸ Database.holds_filed Database.empty (numbered maxWord)
  have tells := text ▸ tells_numbered (Nat.le_refl maxWord)
  obtain ⟨entity, told⟩ := law _ _ _ _ _ _ "next" "event" _ 0 0 held
    (open_of_tells held tells .default "user" 0)
  rw [context_of_full _ _ _ _ rfl] at told
  cases told

end Session

end Telemetry
