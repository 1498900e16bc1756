/-
Entries under their keys. Whatever is put into a database one after another, each key stands in it once and has the
last entry that was put under it.

- `find?_insert`: what an insertion changes.
- `find?_insertAll`: the entry of a key after many insertions is the last one for it.
- `nodup_keys_insertAll`, `size_insertAll`: there are as many entries as keys have come up.
- `mem_entries_insertAll`: every entry has been put in under its key.
-/
import Mathlib.Tactic
import IncludeAudit.Database.Basic

namespace IncludeAudit.Database

/-- the files of a database, by their identities -/
def keys (d : Database) : List Path :=
  d.entries.map (·.1)

/-- a database with more entries, put in one after another -/
def insertAll (d : Database) (es : List (Path × Entry)) : Database :=
  es.foldl (fun d e => d.insert e.1 e.2) d

theorem insertAll_cons (d : Database) (e : Path × Entry) (es : List (Path × Entry)) :
    d.insertAll (e :: es) = (d.insert e.1 e.2).insertAll es := rfl

theorem size_eq_zero {d : Database} (h : d.size = 0) : d = {} := by
  rcases d with ⟨entries⟩
  exact congrArg Database.mk (List.eq_nil_of_length_eq_zero h)

/-! ## One insertion -/

theorem find?_insert (d : Database) (key : Path) (e : Entry) (k : Path) :
    (d.insert key e).find? k = if k = key then some e else d.find? k := by
  split_ifs with hk
  · rw [hk]
    exact find?_put_self key e d.entries
  · exact find?_put_other hk e d.entries

theorem keys_put (key : Path) (e : Entry) (es : List (Path × Entry)) :
    (put key e es).map (·.1) = if key ∈ es.map (·.1) then es.map (·.1) else es.map (·.1) ++ [key] := by
  induction es with
  | nil => rfl
  | cons old es ih =>
    by_cases ho : old.1 = key
    · simp [put, ho]
    · have hmem : key ∈ (old :: es).map (·.1) ↔ key ∈ es.map (·.1) := by simp [Ne.symm ho]
      rw [put, if_neg ho, List.map_cons, ih]
      simp only [hmem]
      split_ifs <;> rfl

theorem keys_insert (d : Database) (key : Path) (e : Entry) :
    (d.insert key e).keys = if key ∈ d.keys then d.keys else d.keys ++ [key] :=
  keys_put key e d.entries

theorem mem_keys_insert {d : Database} {key k : Path} {e : Entry} :
    k ∈ (d.insert key e).keys ↔ k ∈ d.keys ∨ k = key := by
  rw [keys_insert]
  split_ifs with h
  · exact ⟨Or.inl, fun hk => hk.elim id fun hk => hk ▸ h⟩
  · simp

theorem nodup_keys_insert {d : Database} (h : d.keys.Nodup) (key : Path) (e : Entry) :
    (d.insert key e).keys.Nodup := by
  rw [keys_insert]
  split_ifs with hk
  · exact h
  · refine List.nodup_append.2 ⟨h, List.nodup_singleton key, fun a ha b hb hab => hk ?_⟩
    rwa [← List.mem_singleton.1 hb, ← hab]

theorem mem_put {key : Path} {e : Entry} {es : List (Path × Entry)} {x : Path × Entry} (h : x ∈ put key e es) :
    x ∈ es ∨ x = (key, e) := by
  induction es with
  | nil => exact Or.inr (List.mem_singleton.1 h)
  | cons old es ih =>
    rw [put] at h
    split_ifs at h
    · rcases List.mem_cons.1 h with rfl | h
      · exact Or.inr rfl
      · exact Or.inl (List.mem_cons_of_mem old h)
    · rcases List.mem_cons.1 h with rfl | h
      · exact Or.inl List.mem_cons_self
      · exact (ih h).imp_left (List.mem_cons_of_mem old)

/-! ## Many insertions -/

theorem find?_insertAll (d : Database) (es : List (Path × Entry)) (k : Path) :
    (d.insertAll es).find? k = ((es.filter (·.1 = k)).getLast?.map (·.2)).or (d.find? k) := by
  induction es generalizing d with
  | nil => rfl
  | cons e es ih =>
    rw [insertAll_cons, ih, find?_insert]
    by_cases he : e.1 = k
    · -- the entry in front counts only when no later one has the same key
      rw [if_pos he.symm, List.filter_cons_of_pos (by simpa using he), List.getLast?_cons]
      cases (es.filter (·.1 = k)).getLast? <;> rfl
    · rw [if_neg (Ne.symm he), List.filter_cons_of_neg (by simpa using he)]

theorem mem_keys_insertAll {d : Database} {es : List (Path × Entry)} {k : Path} :
    k ∈ (d.insertAll es).keys ↔ k ∈ d.keys ∨ k ∈ es.map (·.1) := by
  induction es generalizing d with
  | nil => simp [insertAll]
  | cons e es ih =>
    rw [insertAll_cons, ih, mem_keys_insert, List.map_cons, List.mem_cons, or_assoc]

theorem mem_entries_insertAll {d : Database} {es : List (Path × Entry)} {x : Path × Entry}
    (h : x ∈ (d.insertAll es).entries) : x ∈ d.entries ∨ x ∈ es := by
  induction es generalizing d with
  | nil => exact Or.inl h
  | cons e es ih =>
    rcases ih h with h | h
    · exact (mem_put h).imp_right fun he => List.mem_cons.2 (Or.inl he)
    · exact Or.inr (List.mem_cons_of_mem e h)

theorem nodup_keys_insertAll {d : Database} (h : d.keys.Nodup) (es : List (Path × Entry)) :
    (d.insertAll es).keys.Nodup := by
  induction es generalizing d with
  | nil => exact h
  | cons e es ih => exact ih (nodup_keys_insert h e.1 e.2)

/-- there are as many entries as keys have come up -/
theorem size_insertAll (es : List (Path × Entry)) :
    (insertAll {} es).size = (es.map (·.1)).toFinset.card := by
  have hn : (insertAll {} es).keys.Nodup := nodup_keys_insertAll (d := {}) List.nodup_nil es
  have hk : (insertAll {} es).keys.toFinset = (es.map (·.1)).toFinset := by
    ext k
    rw [List.mem_toFinset, List.mem_toFinset, mem_keys_insertAll]
    exact or_iff_right List.not_mem_nil
  rw [← hk, List.toFinset_card_of_nodup hn, keys, List.length_map, size]

/-- an entry is found under its key when that key stands for no other -/
theorem find?_of_mem {d : Database} (h : d.keys.Nodup) {k : Path} {e : Entry} (hm : (k, e) ∈ d.entries) :
    d.find? k = some e := by
  cases hf : d.entries.find? (·.1 = k) with
  | none => exact absurd (List.find?_eq_none.1 hf _ hm) (by simp)
  | some x =>
    have hx : x.1 = k := by simpa using List.find?_some hf
    have hxe : x = (k, e) := List.inj_on_of_nodup_map h (List.mem_of_find?_eq_some hf) hm hx
    rw [find?, hf, hxe]
    rfl

theorem mem_of_find? {d : Database} {k : Path} {e : Entry} (h : d.find? k = some e) : (k, e) ∈ d.entries := by
  obtain ⟨x, hx, rfl⟩ := Option.map_eq_some_iff.1 h
  have hk : x.1 = k := by simpa using List.find?_some hx
  rw [← hk]
  exact List.mem_of_find?_eq_some hx

end IncludeAudit.Database
