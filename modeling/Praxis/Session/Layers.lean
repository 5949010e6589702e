import Praxis.Session.Reducer

/-!
# Layers of the session reducer

The reducer's `switch` falls into groups of entry types: the runs' records, the plan graph, the
review plan. Each group has variables of its own and reads, beyond its payloads, only what the
reducer keeps about the session. An `EntryLayer` is such a group, and `SessionRules.with` puts it on
top of the rules of the other types, which stay arbitrary.

What a layer keeps is carried through an accepted stream by `reduceEntries_layer`.
-/

namespace Praxis.Session

set_option autoImplicit false

open Praxis.Foundations

/-- A group of entry types: how its payloads are read and checked, what they leave behind, and
what the projection checks of it. -/
structure EntryLayer (Data Event Own : Type) where
  /-- The payload of an entry of the group. -/
  event? : Data → Option Event
  validate : Event → Option String → Except String Unit
  start : Own
  apply : SessionStateV3 Data → SessionEntryV3 Data → Own → Event → Except String Own
  finish : Own → Except String Unit

variable {Data Event Own View : Type} {layer : EntryLayer Data Event Own}
  {state : SessionStateV3 Data} {own : Own} {entry : SessionEntryV3 Data}

/-- The event that an entry of the group records. -/
def EntryLayer.event (layer : EntryLayer Data Event Own) (entry : SessionEntryV3 Data) :
    Option Event :=
  match entry.data with
  | .other data => layer.event? data
  | _ => none

/-- What the group keeps after an entry, of the group or not. -/
def EntryLayer.advance (layer : EntryLayer Data Event Own) (state : SessionStateV3 Data)
    (own : Own) (entry : SessionEntryV3 Data) : Except String Own :=
  match layer.event entry with
  | some event => layer.apply state entry own event
  | none => .ok own

theorem EntryLayer.advance_of_event {event : Event} (records : layer.event entry = some event) :
    layer.advance state own entry = layer.apply state entry own event := by
  rw [EntryLayer.advance, records]

theorem EntryLayer.advance_of_none
    (foreign : layer.event entry = none) : layer.advance state own entry = .ok own := by
  rw [EntryLayer.advance, foreign]

/-- The check of a payload, if it is one of the group. -/
def EntryLayer.check (layer : EntryLayer Data Event Own) (data : SessionEntryDataV3 Data)
    (runId : Option String) : Except String Unit :=
  match data with
  | .other data =>
    match layer.event? data with
    | some event => layer.validate event runId
    | none => .ok ()
  | _ => .ok ()

/-- The rules together with those of a group. -/
def SessionRules.with (rest : SessionRules Data View) (layer : EntryLayer Data Event Own) :
    SessionRules Data (Own × View) where
  checksum := rest.checksum
  catalogChecksum := rest.catalogChecksum
  archiveChecksum := rest.archiveChecksum
  localeCompare := rest.localeCompare
  validatePayload data runId := do
    layer.check data runId
    rest.validatePayload data runId
  start first := (layer.start, rest.start first)
  apply state view entry := do
    let own ← layer.advance state view.1 entry
    let others ← rest.apply state view.2 entry
    return (own, others)
  finish view := do
    layer.finish view.1
    rest.finish view.2

section

variable {rest : SessionRules Data View} {layer : EntryLayer Data Event Own}
  {current next : SessionStateV3 Data × Own × View} {entry : SessionEntryV3 Data}
  {entries : List (SessionEntryV3 Data)}

theorem reduceEntry_advances (accepted : reduceEntry (rest.with layer) current entry = .ok next) :
    layer.advance current.1 current.2.1 entry = .ok next.2.1 := by
  simp only [reduceEntry, bind_eq_ok, pure_eq_ok, SessionRules.with, ruled_eq_ok] at accepted
  obtain ⟨_, _, _, _, _, _, _, ⟨own, advanced, others, _, rfl⟩, rfl⟩ := accepted
  exact advanced

theorem reduceEntries_layer (Inv : List (SessionEntryV3 Data) → Own → Prop)
    (start : ∀ first, Inv [first] layer.start)
    (step : ∀ front current entry own, reduceEntries (rest.with layer) front = .ok current →
      Inv front current.2.1 → layer.advance current.1 current.2.1 entry = .ok own →
      Inv (front ++ [entry]) own)
    (accepted : reduceEntries (rest.with layer) entries = .ok current) : Inv entries current.2.1 :=
  reduceEntries_invariant (fun entries current => Inv entries current.2.1)
    (fun first _ _ => start first)
    (fun front current entry _ upTo holds taken =>
      step front current entry _ upTo holds (reduceEntry_advances taken))
    accepted

end

/-! ## Streams without other entry types -/

/-- Rules under which payloads need nothing more and leave nothing behind. -/
def plainRules (Data : Type) : SessionRules Data Unit where
  checksum _ := "commit"
  catalogChecksum _ _ := "catalog"
  archiveChecksum _ _ :=
    ⟨"sha256:0000000000000000000000000000000000000000000000000000000000000000", by decide +kernel⟩
  localeCompare := compare
  validatePayload _ _ := .ok ()
  start _ := ()
  apply _ view _ := .ok view
  finish _ := .ok ()

def createdEntry (Data : Type) : SessionEntryV3 Data where
  entryId := "entry-1"
  sessionId := "session-1"
  sequence := 1
  revision := 1
  timestamp := ⟨"2026-01-01T00:00:00.000Z", some 1_767_225_600_000⟩
  data := .sessionCreated
    { cwd := "/work"
      provider := "provider"
      model := "model"
      name := "Session" }

def oneDigestRules : SessionRules Unit Unit :=
  { plainRules Unit with
    checksum := fun _ =>
      "sha256:0000000000000000000000000000000000000000000000000000000000000000" }

def creatingCommit : SessionCommitV3 Unit where
  sessionId := "session-1"
  commitId := "commit-1"
  expectedRevision := 0
  idempotencyKey := "key-1"
  entries := [createdEntry Unit]
  checksum := "sha256:0000000000000000000000000000000000000000000000000000000000000000"

/-- The entries that record data one after the other, in the commit that creates the session. -/
def entriesOf (records : List (Option String × SessionEntryDataV3 Data)) :
    List (SessionEntryV3 Data) :=
  createdEntry Data :: records.mapIdx fun index record =>
    { createdEntry Data with
      entryId := "entry-" ++ toString (index + 2)
      sequence := index + 2
      runId := record.1
      data := record.2 }

end Praxis.Session
