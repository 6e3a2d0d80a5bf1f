import Mathlib.Data.List.Nodup

/-!
# Association lists

A list of pairs whose first parts are pairwise distinct is a finite map: looking up a key finds the
one pair that has it, wherever it stands, and dropping a key drops just that pair. The same is true
of any list whose members have pairwise distinct keys.
-/

namespace CatalogBrowser.Association

variable {κ β : Type} [DecidableEq κ] {entries : List (κ × β)} {key : κ} {value : β}

theorem mem_of_lookup (h : entries.lookup key = some value) : (key, value) ∈ entries := by
  obtain ⟨before, behind, rfl, -⟩ := List.lookup_eq_some_iff.1 h
  simp

/-- In a map, looking up is membership. -/
theorem lookup_eq_some_iff_mem (h : (entries.map Prod.fst).Nodup) :
    entries.lookup key = some value ↔ (key, value) ∈ entries := by
  constructor
  · exact mem_of_lookup
  · intro hmem
    obtain ⟨before, behind, rfl⟩ := List.append_of_mem hmem
    refine List.lookup_eq_some_iff.2 ⟨before, behind, rfl, ?_⟩
    intro entry hentry
    rw [List.map_append, List.nodup_append] at h
    have hne := h.2.2 entry.1 (List.mem_map_of_mem hentry) key (by simp)
    simpa using hne.symm

theorem lookup_eq_none_iff_not_mem :
    entries.lookup key = none ↔ key ∉ entries.map Prod.fst := by
  rw [List.lookup_eq_none_iff]
  constructor
  · intro h hmem
    obtain ⟨entry, hentry, rfl⟩ := List.mem_map.1 hmem
    simpa using h entry hentry
  · intro h entry hentry
    have hne : key ≠ entry.1 := fun heq => h (heq ▸ List.mem_map_of_mem hentry)
    simpa using hne

theorem lookup_filter {keep : κ × β → Bool} (h : ∀ entry ∈ entries, entry.1 = key → keep entry) :
    (entries.filter keep).lookup key = entries.lookup key := by
  induction entries with
  | nil => rfl
  | cons entry rest ih =>
    have ih := ih fun other hother => h other (List.mem_cons_of_mem _ hother)
    by_cases hkey : entry.1 = key
    · rw [List.filter_cons_of_pos (h entry List.mem_cons_self hkey), List.lookup_cons,
        List.lookup_cons, hkey, beq_self_eq_true]
    · have hmiss : (key == entry.1) = false := by simpa using Ne.symm hkey
      rw [List.lookup_cons, hmiss, List.filter_cons]
      split
      · rw [List.lookup_cons, hmiss]
        exact ih
      · exact ih

theorem filter_not_mem_cons {keys : List κ} (h : entries.lookup key = none) :
    entries.filter (·.1 ∉ key :: keys) = entries.filter (·.1 ∉ keys) := by
  refine List.filter_congr fun entry hentry => ?_
  have hne : entry.1 ≠ key := fun heq =>
    lookup_eq_none_iff_not_mem.1 h (heq ▸ List.mem_map_of_mem hentry)
  rw [decide_eq_decide, List.mem_cons, not_or]
  exact and_iff_right hne

/-- Dropping a key of a map drops the one entry that has it. -/
theorem perm_filter_ne {before behind : List (κ × β)} (hnodup : (entries.map Prod.fst).Nodup)
    (hperm : entries.Perm (before ++ (key, value) :: behind)) :
    (entries.filter (·.1 ≠ key)).Perm (before ++ behind) := by
  have hdistinct := (hperm.map Prod.fst).nodup_iff.1 hnodup
  rw [List.map_append, List.map_cons, List.nodup_append, List.nodup_cons] at hdistinct
  obtain ⟨-, ⟨hbehind, -⟩, hbefore⟩ := hdistinct
  have hkeep : ∀ others : List (κ × β), key ∉ others.map Prod.fst →
      others.filter (·.1 ≠ key) = others := by
    intro others hothers
    rw [List.filter_eq_self]
    intro other hother
    exact decide_eq_true fun heq => hothers (heq ▸ List.mem_map_of_mem hother)
  have h := hperm.filter (·.1 ≠ key)
  rw [List.filter_append, List.filter_cons_of_neg (by simp), hkeep behind hbehind,
    hkeep before fun hmem => hbefore key hmem key (by simp) rfl] at h
  exact h

/-- Where keys are pairwise distinct, a key finds the one member that has it. -/
theorem find?_eq_some_iff {α : Type} {f : α → κ} {members : List α} {member : α}
    (h : (members.map f).Nodup) :
    members.find? (f · = key) = some member ↔ member ∈ members ∧ f member = key := by
  have hfound : ∀ other, members.find? (f · = key) = some other →
      other ∈ members ∧ f other = key := fun other hfind =>
    ⟨List.mem_of_find?_eq_some hfind, by simpa using List.find?_some hfind⟩
  refine ⟨hfound member, fun ⟨hmem, hkey⟩ => ?_⟩
  cases hfind : members.find? (f · = key) with
  | none => exact absurd (decide_eq_true hkey) (List.find?_eq_none.1 hfind member hmem)
  | some other =>
    obtain ⟨hother, hsame⟩ := hfound other hfind
    rw [List.inj_on_of_nodup_map h hother hmem (hsame.trans hkey.symm)]

end CatalogBrowser.Association
