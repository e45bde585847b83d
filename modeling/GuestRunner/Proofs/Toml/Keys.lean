import GuestRunner.Toml.Document
import Mathlib.Data.List.Nodup
import Mathlib.Data.Option.Basic

/-!
# The keys of a document

A table keeps its entries in a list, and `Value.insert` and `Value.merge` keep every key in it once.
In a document that has been read, every table at any depth has texts for keys, and none of them
twice; what is no table and no array is a text, a truth value, a number or a moment. All statements
change the document by `Entries.within`, which keeps this if the change at the end of the path does.
-/

set_option autoImplicit false

namespace GuestRunner

theorem bind_eq_ok {ε α β : Type} {x : Except ε α} {f : α → Except ε β} {b : β} :
    x >>= f = .ok b ↔ ∃ a, x = .ok a ∧ f a = .ok b := by
  cases x with
  | error e => exact ⟨nofun, nofun⟩
  | ok a => exact ⟨fun h => ⟨a, rfl, h⟩, by rintro ⟨_, ⟨⟩, h⟩; exact h⟩

theorem map_eq_ok {ε α β : Type} {x : Except ε α} {f : α → β} {b : β} :
    x.map f = .ok b ↔ ∃ a, x = .ok a ∧ f a = b := by
  cases x with
  | error e => exact ⟨nofun, nofun⟩
  | ok a => simp [Except.map]

namespace Value

variable {α β : Type} [DecidableEq α] {key k : α} {value : β} {entries first second : List (α × β)}

theorem lookup_cons (entry : α × β) (rest : List (α × β)) :
    (entry :: rest).lookup k = if k = entry.1 then some entry.2 else rest.lookup k := by
  obtain ⟨key, value⟩ := entry
  rw [List.lookup_cons]
  by_cases h : k = key
  · simp [h]
  · simp [h, beq_eq_false_iff_ne.mpr h]

theorem lookup_eq_none : entries.lookup k = none ↔ k ∉ entries.map Prod.fst := by
  induction entries with
  | nil => simp
  | cons entry rest ih =>
    rw [lookup_cons, List.map_cons, List.mem_cons, not_or, ← ih]
    split <;> simp_all

theorem insert_lookup :
    (insert key value entries).lookup k = if k = key then some value else entries.lookup k := by
  induction entries with
  | nil => rw [insert, lookup_cons]
  | cons entry rest ih =>
    by_cases hk : entry.1 = key
    · simp only [insert, hk, if_true, lookup_cons]
      split <;> rfl
    · simp only [insert, hk, if_false, lookup_cons, ih]
      split_ifs with h h' <;> simp_all

theorem insert_keys : (insert key value entries).map Prod.fst =
    if key ∈ entries.map Prod.fst then entries.map Prod.fst else entries.map Prod.fst ++ [key] := by
  induction entries with
  | nil => simp [insert]
  | cons entry rest ih =>
    by_cases hk : entry.1 = key
    · simp [insert, hk]
    · simp only [insert, hk, if_false, List.map_cons, ih, List.mem_cons, Ne.symm hk, false_or]
      split <;> simp

theorem insert_new (h : key ∉ entries.map Prod.fst) :
    insert key value entries = entries ++ [(key, value)] := by
  induction entries with
  | nil => rfl
  | cons entry rest ih =>
    simp only [List.map_cons, List.mem_cons, not_or] at h
    simp [insert, Ne.symm h.1, ih h.2]

theorem insert_nodup (h : (entries.map Prod.fst).Nodup) :
    ((insert key value entries).map Prod.fst).Nodup := by
  rw [insert_keys]
  split
  · exact h
  · rename_i hk
    exact List.concat_eq_append ▸ h.concat hk

theorem mem_insert {entry : α × β} (h : entry ∈ insert key value entries) :
    entry ∈ entries ∨ entry.2 = value := by
  induction entries with
  | nil => simp_all [insert]
  | cons e rest ih => grind [insert]

theorem merge_nodup (h : (first.map Prod.fst).Nodup) :
    ((merge first second).map Prod.fst).Nodup := by
  induction second generalizing first with
  | nil => exact h
  | cons entry rest ih => exact ih (insert_nodup h)

theorem merge_lookup (h : (second.map Prod.fst).Nodup) :
    (merge first second).lookup k = (second.lookup k).or (first.lookup k) := by
  induction second generalizing first with
  | nil => rfl
  | cons entry rest ih =>
    obtain ⟨hn, hr⟩ := List.nodup_cons.mp h
    have hm : merge first (entry :: rest) = merge (insert entry.1 entry.2 first) rest := rfl
    rw [hm, ih hr, insert_lookup, lookup_cons]
    split
    · rename_i hk
      rw [lookup_eq_none.mpr (hk ▸ hn), Option.none_or, Option.some_or]
    · rfl

theorem merge_new (h : (second.map Prod.fst).Nodup)
    (hd : ∀ entry ∈ second, entry.1 ∉ first.map Prod.fst) :
      merge first second = first ++ second := by
  induction second generalizing first with
  | nil => simp [merge]
  | cons entry rest ih =>
    obtain ⟨hn, hr⟩ := List.nodup_cons.mp h
    have hm : merge first (entry :: rest) = merge (insert entry.1 entry.2 first) rest := rfl
    rw [hm, insert_new (hd entry (by simp)), ih hr, List.append_assoc, List.singleton_append]
    intro other ho
    simp only [List.map_append, List.mem_append, not_or]
    refine ⟨hd other (by simp [ho]), fun hk => hn ?_⟩
    rw [← List.mem_singleton.mp hk]
    exact List.mem_map_of_mem ho

theorem merge_nil_left (h : (second.map Prod.fst).Nodup) : merge [] second = second :=
  merge_new h (by simp)

end Value

namespace Toml

def lifted (fields : List (String × Value)) : Entries :=
  fields.map fun (name, v) => (.text name, v)

variable {fields : List (String × Value)} {entries entries' : Entries} {key : String} {v : Value}

theorem find?_lifted : Entries.find? key (lifted fields) = fields.lookup key := by
  induction fields with
  | nil => rfl
  | cons field rest ih =>
    simp only [lifted, List.map_cons, Entries.find?, Value.lookup_cons, eq_comm (a := key)]
    split
    · rfl
    · exact ih

theorem set_lifted : Entries.set key v (lifted fields) = lifted (Value.insert key v fields) := by
  induction fields with
  | nil => rfl
  | cons field rest ih =>
    simp only [lifted, List.map_cons, Entries.set, Value.insert]
    split
    · rfl
    · rw [List.map_cons, ← lifted, ← lifted, ih]

def isPlain : Value → Bool
  | .text _ | .bool _ | .int _ | .float _ | .moment _ => true
  | _ => false

inductive Keyed : Value → Prop
  | plain {v : Value} (h : isPlain v = true) : Keyed v
  | list {items : List Value} (h : ∀ v ∈ items, Keyed v) : Keyed (.list items)
  | table {fields : List (String × Value)} (hd : (fields.map Prod.fst).Nodup)
      (h : ∀ field ∈ fields, Keyed field.2) : Keyed (.table (lifted fields))

namespace Keyed

theorem items {items : List Value} (h : Keyed (.list items)) : ∀ v ∈ items, Keyed v := by
  cases h with
  | plain h => cases h
  | list h => exact h

theorem lifts (h : Keyed (.table entries)) : ∃ fields, entries = lifted fields ∧
    (fields.map Prod.fst).Nodup ∧ ∀ field ∈ fields, Keyed field.2 := by
  cases h with
  | plain h => cases h
  | table hd h => exact ⟨_, rfl, hd, h⟩

theorem empty : Keyed (.table []) :=
  @Keyed.table [] (by simp) (by simp)

theorem found (h : Keyed (.table entries)) (hf : Entries.find? key entries = some v) : Keyed v := by
  obtain ⟨fields, rfl, -, hk⟩ := h.lifts
  rw [find?_lifted, List.lookup_eq_some_iff] at hf
  obtain ⟨before, after, rfl, -⟩ := hf
  exact hk (key, v) (by simp)

theorem set (h : Keyed (.table entries)) (hv : Keyed v) :
    Keyed (.table (Entries.set key v entries)) := by
  obtain ⟨fields, rfl, hd, hk⟩ := h.lifts
  rw [set_lifted]
  refine .table (Value.insert_nodup hd) fun field hf => ?_
  rcases Value.mem_insert hf with hf | hf
  · exact hk field hf
  · exact hf ▸ hv

end Keyed

def Keeps (change : Entries → Option Entries) : Prop :=
  ∀ {entries entries'}, Keyed (.table entries) → change entries = some entries' →
    Keyed (.table entries')

theorem add_keeps (hv : Keyed v) : Keeps (Entries.add key v) := by
  intro entries entries' h ha
  simp only [Entries.add] at ha
  split at ha
  · rename_i hf
    cases ha
    obtain ⟨fields, rfl, hd, hk⟩ := h.lifts
    have hs : lifted fields ++ [(.text key, v)] = Entries.set key v (lifted fields) := by
      rw [find?_lifted, Value.lookup_eq_none] at hf
      rw [set_lifted, Value.insert_new hf]
      simp [lifted]
    rw [hs]
    exact h.set hv
  · cases ha

theorem appendTable_keeps : Keeps (Entries.appendTable key) := by
  intro entries entries' h ha
  simp only [Entries.appendTable] at ha
  split at ha
  · cases ha
    exact h.set (.list (by simp [Keyed.empty]))
  · rename_i items hf
    cases ha
    refine h.set (.list fun v hv => ?_)
    rcases List.mem_append.mp hv with hv | hv
    · exact (h.found hf).items v hv
    · exact List.mem_singleton.mp hv ▸ .empty
  · cases ha

/-- Along a path every table is set again in the one before it. -/
theorem within_keeps {lists : Bool} {change : Entries → Option Entries} (hc : Keeps change)
    (path : List String) : Keeps (Entries.within lists change path) := by
  induction path with
  | nil => exact hc
  | cons key path ih =>
    intro entries entries' h hw
    simp only [Entries.within] at hw
    -- Nothing yet, a table, an array whose last table is meant, or a value that is in the way.
    split at hw
    · obtain ⟨inner, hi, rfl⟩ := Option.map_eq_some_iff.mp hw
      exact h.set (ih .empty hi)
    · rename_i old hf
      obtain ⟨inner, hi, rfl⟩ := Option.map_eq_some_iff.mp hw
      exact h.set (ih (h.found hf) hi)
    · rename_i items hf
      split at hw
      · cases hw
      · split at hw
        · rename_i old hl
          obtain ⟨inner, hi, rfl⟩ := Option.map_eq_some_iff.mp hw
          have hk := (h.found hf).items
          refine h.set (.list fun v hv => ?_)
          rcases List.mem_append.mp hv with hv | hv
          · exact hk v (List.dropLast_subset _ hv)
          · exact List.mem_singleton.mp hv ▸ ih (hk _ (List.mem_of_getLast? hl)) hi
        · cases hw
    · cases hw

theorem assignInline_keyed {frozen : List (List String)} {path : List String}
    (h : Keyed (.table entries)) (hv : Keyed v)
    (ha : assignInline frozen path v entries = some entries') : Keyed (.table entries') := by
  simp only [assignInline] at ha
  split at ha
  · cases ha
  · exact within_keeps (add_keeps hv) _ h ha

theorem orMalformed_eq_ok {α : Type} {x : Option α} {a : α} :
    (liftM x : Except Fault α) = .ok a ↔ x = some a := by
  cases x with
  | none => exact ⟨nofun, nofun⟩
  | some b =>
    constructor
    · rintro ⟨⟩
      rfl
    · rintro ⟨⟩
      rfl

theorem decimal_plain {cs left : List Char} (h : decimal cs = .ok (v, left)) :
    isPlain v = true := by
  simp only [decimal, bind_eq_ok] at h
  obtain ⟨_, -, h⟩ := h
  split at h
  · split at h
    · cases h
    · cases h
      rfl
  · cases h
    rfl

theorem namedNumber_plain {cs left : List Char} (h : namedNumber cs = some (v, left)) :
    isPlain v = true := by
  simp only [namedNumber] at h
  split at h
  · cases h
    rfl
  · obtain ⟨_, -, he⟩ := Option.map_eq_some_iff.mp h
    cases he
    rfl

theorem scalar_plain {cs left : List Char} (h : scalar cs = .ok (v, left)) :
    isPlain v = true := by
  simp only [scalar, number] at h
  split at h
  · cases h
  · cases h
    rfl
  · split at h
    · cases h
      rfl
    · rename_i hn
      cases h
      exact namedNumber_plain hn
    · exact decimal_plain h

structure ReadsKeyed (fuel : Nat) : Prop where
  value {cs left : List Char} {v : Value} (h : Toml.value fuel cs = .ok (v, left)) : Keyed v
  items {cs left : List Char} {items : List Value} (h : arrayItems fuel cs = .ok (items, left)) :
    ∀ v ∈ items, Keyed v
  entries {frozen : List (List String)} {entries out : Entries} {cs left : List Char}
    (hk : Keyed (.table entries)) (h : inlineEntries fuel frozen entries cs = .ok (out, left)) :
    Keyed (.table out)

namespace ReadsKeyed

variable {fuel : Nat} {cs left : List Char}

theorem value_step (hr : ReadsKeyed fuel) (h : Toml.value (fuel + 1) cs = .ok (v, left)) :
    Keyed v := by
  cases cs with
  | nil => cases h
  | cons c rest =>
    simp only [Toml.value] at h
    split at h
    · obtain ⟨⟨s, _⟩, -, he⟩ := Option.map_eq_some_iff.mp (orMalformed_eq_ok.mp h)
      cases he
      exact .plain rfl
    · split at h
      · simp only [bind_eq_ok] at h
        obtain ⟨rest, -, h⟩ := h
        split at h
        · cases h
          exact .list (by simp)
        · obtain ⟨⟨items, left⟩, hi, h⟩ := bind_eq_ok.mp h
          cases h
          exact .list (hr.items hi)
      · split at h
        · split at h
          · cases h
            exact .empty
          · obtain ⟨⟨entries, left⟩, he, h⟩ := bind_eq_ok.mp h
            cases h
            exact hr.entries .empty he
        · split at h
          · cases h
            exact .plain rfl
          · cases h
            exact .plain rfl
          · exact .plain (scalar_plain h)

theorem items_step (hr : ReadsKeyed fuel) {items : List Value}
    (h : arrayItems (fuel + 1) cs = .ok (items, left)) : ∀ v ∈ items, Keyed v := by
  simp only [arrayItems, bind_eq_ok] at h
  obtain ⟨⟨item, rest⟩, hv, rest', -, h⟩ := h
  have hi := hr.value hv
  split at h
  · cases h
    simpa using hi
  · obtain ⟨rest, -, h⟩ := bind_eq_ok.mp h
    split at h
    · cases h
      simpa using hi
    · obtain ⟨⟨others, left⟩, ho, h⟩ := bind_eq_ok.mp h
      cases h
      exact List.forall_mem_cons.mpr ⟨hi, hr.items ho⟩
  · cases h

theorem entries_step (hr : ReadsKeyed fuel) {frozen : List (List String)} {out : Entries}
    (hk : Keyed (.table entries))
    (h : inlineEntries (fuel + 1) frozen entries cs = .ok (out, left)) : Keyed (.table out) := by
  simp only [inlineEntries, bind_eq_ok, orMalformed_eq_ok] at h
  obtain ⟨⟨path, rest⟩, -, rest', -, ⟨item, rest''⟩, hv, changed, ha, h⟩ := h
  have hc := assignInline_keyed hk (hr.value hv) ha
  split at h
  · cases h
    exact hc
  · exact hr.entries hc h
  · cases h

end ReadsKeyed

theorem readsKeyed (fuel : Nat) : ReadsKeyed fuel := by
  induction fuel with
  | zero => exact ⟨nofun, nofun, nofun⟩
  | succ fuel ih => exact ⟨ih.value_step, ih.items_step, ih.entries_step⟩

namespace Progress

variable {p p' : Progress} {path : List String}

theorem openTable_keyed (h : Keyed (.table p.entries)) (ho : p.openTable path = some p') :
    Keyed (.table p'.entries) := by
  simp only [openTable, bind, Option.bind_eq_some_iff] at ho
  obtain ⟨-, -, entries, hw, ho⟩ := ho
  cases ho
  exact within_keeps (by rintro _ _ hk ⟨⟩; exact hk) _ h hw

theorem openElement_keyed (h : Keyed (.table p.entries)) (ho : p.openElement path = some p') :
    Keyed (.table p'.entries) := by
  simp only [openElement, bind, Option.bind_eq_some_iff] at ho
  obtain ⟨-, -, entries, hw, ho⟩ := ho
  cases ho
  exact within_keeps appendTable_keeps _ h hw

theorem assign_keyed (h : Keyed (.table p.entries)) (hv : Keyed v)
    (ha : p.assign path v = some p') : Keyed (.table p'.entries) := by
  simp only [assign, bind, Option.bind_eq_some_iff] at ha
  obtain ⟨-, -, -, -, entries, hw, ha⟩ := ha
  cases ha
  exact within_keeps (add_keeps hv) _ h hw

end Progress

theorem statement_keyed {p p' : Progress} {cs left : List Char} (h : Keyed (.table p.entries))
    (hs : statement p cs = .ok (p', left)) : Keyed (.table p'.entries) := by
  simp only [statement] at hs
  split at hs
  · simp only [bind_eq_ok, orMalformed_eq_ok] at hs
    obtain ⟨_, -, _, -, q, ho, hs⟩ := hs
    cases hs
    exact Progress.openElement_keyed h ho
  · simp only [bind_eq_ok, orMalformed_eq_ok] at hs
    obtain ⟨_, -, q, ho, hs⟩ := hs
    cases hs
    exact Progress.openTable_keyed h ho
  · simp only [bind_eq_ok, orMalformed_eq_ok] at hs
    obtain ⟨_, -, _, -, ⟨item, rest⟩, hv, q, ha, hs⟩ := hs
    cases hs
    exact Progress.assign_keyed h ((readsKeyed _).value hv) ha

theorem lines_keyed {p p' : Progress} {fuel : Nat} {cs : List Char} (h : Keyed (.table p.entries))
    (hl : lines fuel p cs = .ok p') : Keyed (.table p'.entries) := by
  induction fuel generalizing p cs with
  | zero => cases hl
  | succ fuel ih =>
    simp only [lines] at hl
    split at hl
    · cases hl
      exact h
    · exact ih h hl
    -- After a comment or a statement the same is left to do with the rest of the line.
    · split at hl
      all_goals
        obtain ⟨⟨q, rest⟩, hq, hl⟩ := bind_eq_ok.mp hl
        obtain ⟨left, -, hl⟩ := bind_eq_ok.mp hl
        have hk : Keyed (.table q.entries) := by
          first
          | exact statement_keyed h hq
          | cases hq; exact h
        split at hl
        · cases hl
          exact hk
        · exact ih hk hl
        · cases hl

theorem parse_keyed {source : String} {document : Entries} (h : parse source = .ok document) :
    Keyed (.table document) := by
  obtain ⟨p, hl, rfl⟩ := map_eq_ok.mp h
  exact lines_keyed .empty hl

end Toml

end GuestRunner
