import Skirmish.Encounter
import Skirmish.Saved.Casting
import Skirmish.Saved.Codec
import Skirmish.Saved.Rules

/-!
# Encounters as saved data

Ledgers and histories are read as they stand, also when they are out of order. The zone alone is
put in order.
-/

namespace Skirmish

/-! ### Cooldowns, threat and the ledger -/

instance : SavedRecord Cooldown where
  names := ["skill", "remaining"]
  values c := [save c.skill, save c.remaining]
  ofFields? f := do
    let skill ← f.need? "skill"
    let remaining ← f.need? "remaining"
    return ⟨skill, remaining⟩

instance : LawfulSaved Cooldown := .ofRecord fun c => by simp

instance : SavedRecord Cooldowns where
  names := ["entries"]
  values c := [save c.entries]
  ofFields? f := do
    let entries ← f.need? "entries"
    return ⟨entries⟩

instance : LawfulSaved Cooldowns := .ofRecord fun c => by simp

instance : SavedRecord Threat where
  names := ["source", "threat", "last_tick"]
  values t := [save t.source, save t.amount, save t.lastTick]
  ofFields? f := do
    let source ← f.need? "source"
    let amount ← f.need? "threat"
    let lastTick ← f.need? "last_tick"
    return ⟨source, amount, lastTick⟩

instance : LawfulSaved Threat := .ofRecord fun t => by simp

instance : SavedRecord Threats where
  names := ["entries"]
  values t := [save t.entries]
  ofFields? f := do
    let entries ← f.need? "entries"
    return ⟨entries⟩

instance : LawfulSaved Threats := .ofRecord fun t => by simp

instance : SavedRecord Standing where
  names := ["entity", "cooldowns", "threat"]
  values s := [save s.entity, save s.cooldowns, save s.threats]
  ofFields? f := do
    let entity ← f.need? "entity"
    let cooldowns ← f.need? "cooldowns"
    let threats ← f.need? "threat"
    return ⟨entity, cooldowns, threats⟩

instance : LawfulSaved Standing := .ofRecord fun s => by simp

instance : SavedRecord Ledger where
  names := ["records"]
  values l := [save l.standings]
  ofFields? f := do
    let standings ← f.need? "records"
    return ⟨standings⟩

instance : LawfulSaved Ledger := .ofRecord fun l => by simp

/-! ### Events and history -/

instance : Saved EventKind where
  save k := .text k.name
  load?
    | .text "Damage" => some .damage
    | .text "Kill" => some .kill
    | _ => none

instance : LawfulSaved EventKind := ⟨fun k => by cases k <;> rfl⟩

instance : SavedRecord Event where
  names := ["tick", "source", "target", "skill", "kind", "amount"]
  values e := [save e.tick, save e.source, save e.target, save e.skill, save e.kind, save e.amount]
  ofFields? f := do
    let tick ← f.need? "tick"
    let source ← f.need? "source"
    let target ← f.need? "target"
    let skill ← f.need? "skill"
    let kind ← f.need? "kind"
    let amount ← f.need? "amount"
    return ⟨tick, source, target, skill, kind, amount⟩

instance : LawfulSaved Event := .ofRecord fun e => by simp

instance : SavedRecord LogEntry where
  names := ["tick", "source", "target", "skill", "kind", "raw_amount", "final_amount"]
  values e :=
    [save e.tick, save e.source, save e.target, save e.skill, save e.kind, save e.rawAmount,
      save e.finalAmount]
  ofFields? f := do
    let tick ← f.need? "tick"
    let source ← f.need? "source"
    let target ← f.need? "target"
    let skill ← f.need? "skill"
    let kind ← f.need? "kind"
    let rawAmount ← f.need? "raw_amount"
    let finalAmount ← f.need? "final_amount"
    return ⟨tick, source, target, skill, kind, rawAmount, finalAmount⟩

instance : LawfulSaved LogEntry := .ofRecord fun e => by simp

instance : SavedRecord History where
  names := ["budgets", "events", "log"]
  values h := [save h.budgets, save h.events, save h.log]
  ofFields? f := do
    let budgets ← f.need? "budgets"
    let events ← f.need? "events"
    let log ← f.need? "log"
    return ⟨budgets, events, log⟩

instance : LawfulSaved History := .ofRecord fun h => by simp

/-! ### Encounters and tallies -/

namespace Encounter

/-- The fields of an encounter. -/
def fieldNames : List String := ["zone", "ledger", "history"]

/-- An encounter as a record, with its zone saved in some way. -/
def toRecord (saveZone : Zone → Value) (e : Encounter) : Value :=
  .record (fieldNames.zip [saveZone e.zone, save e.ledger, save e.history])

/-- The encounter of a record, with its zone read in some way. -/
def ofRecord? (loadZone? : Value → Option Zone) (v : Value) : Option Encounter := do
  let f ← v.fieldsOf? fieldNames 3
  let zone ← (f.field? "zone").bind loadZone?
  let ledger ← f.need? "ledger"
  let history ← f.need? "history"
  return ⟨zone, ledger, history⟩

theorem ofRecord?_toRecord {saveZone : Zone → Value} {loadZone? : Value → Option Zone}
    {e : Encounter} (h : loadZone? (saveZone e.zone) = some e.zone) :
    ofRecord? loadZone? (toRecord saveZone e) = some e := by
  rw [ofRecord?, toRecord, Value.fieldsOf?_record (by decide) rfl]
  simp [fieldNames, h]

end Encounter

instance : Saved RefusalCounts where
  save c := save c.counts.toList
  load? v := do
    let counts : List Nat ← load? v
    if h : counts.toArray.size = 9 then some ⟨counts.toArray, h⟩ else none

instance : SavedRecord Tally where
  names :=
    ["commands", "accepted", "rejections", "skipped_intents", "dropped_intents",
      "events_over_budget"]
  values t :=
    [save t.commands, save t.accepted, save t.refusals, save t.skipped, save t.dropped,
      save t.overBudget]
  ofFields? f := do
    let commands ← f.need? "commands"
    let accepted ← f.need? "accepted"
    let refusals ← f.need? "rejections"
    let skipped ← f.need? "skipped_intents"
    let dropped ← f.need? "dropped_intents"
    let overBudget ← f.need? "events_over_budget"
    return ⟨commands, accepted, refusals, skipped, dropped, overBudget⟩

/-! ### The codec of saved data -/

/-- The codec to trees of saved data. -/
def Codec.values : Codec Value where
  saveZone := Zone.toRecord
  loadZone? := Zone.ofRecord?
  saveSkills := save
  loadSkills? := load?
  saveEncounter := Encounter.toRecord
  loadEncounter? := Encounter.ofRecord?
  saveRules := Rules.toRecord
  loadRules? := Rules.ofRecord?

instance : Saved Zone := ⟨Codec.values.saveZone, Codec.values.readZone?⟩

instance : Saved Skillbook := ⟨Codec.values.saveBook, Codec.values.readBook?⟩

instance : Saved Encounter := ⟨Codec.values.writeEncounter, Codec.values.readEncounter?⟩

instance : Saved Rules := ⟨Codec.values.writeRules, Codec.values.readRules?⟩

end Skirmish
