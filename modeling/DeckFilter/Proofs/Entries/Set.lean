import DeckFilter.Entries
import Mathlib.Data.List.Induction

/-!
# What entries are set to

* `lookup_filter_ne`: without the entries of one key, other keys have the values they had;
* `Entries.find?_set`, **`Entries.find?_ofList`**: the value that was set last is found;
* `Entries.ofList_of_nodup`: keys that are set once stay in their order.
-/

namespace DeckFilter

theorem lookup_filter_ne {α β : Type} [BEq α] [LawfulBEq α] {key other : α} (h : other ≠ key)
    (entries : List (α × β)) :
    (entries.filter fun e => e.1 != key).lookup other = entries.lookup other := by
  induction entries with
  | nil => rfl
  | cons e entries ih =>
    obtain ⟨key', value⟩ := e
    by_cases hkey : key' = key
    · have hother : (other == key') = false := beq_eq_false_iff_ne.mpr (hkey ▸ h)
      rw [List.filter_cons_of_neg (by simp [hkey]), ih, List.lookup_cons, hother]
    · rw [List.filter_cons_of_pos (by simp [hkey]), List.lookup_cons, List.lookup_cons, ih]

namespace Entries

variable {α : Type}

theorem find?_set (key : String) (value : α) (es : Entries α) (other : String) :
    (es.set key value).find? other = if other = key then some value else es.find? other := by
  rw [find?, set, List.lookup_append]
  by_cases h : other = key
  · have hnone : (es.filter fun e => e.1 != key).lookup other = none := by
      rw [List.lookup_eq_none_iff]
      intro e he
      have hne : e.1 ≠ key := bne_iff_ne.mp (List.mem_filter.mp he).2
      simpa [h] using hne.symm
    rw [hnone, if_pos h, h]
    simp
  · rw [lookup_filter_ne h, if_neg h, List.lookup_cons, beq_eq_false_iff_ne.mpr h]
    exact Option.or_none

/-- **The value that a key was set to last is found.** -/
theorem find?_ofList (es : List (String × α)) (key : String) :
    (ofList es).find? key = ((es.filter fun e => e.1 = key).getLast?).map Prod.snd := by
  induction es using List.reverseRecOn with
  | nil => rfl
  | append_singleton es e ih =>
    rw [ofList, List.foldl_append, List.foldl_cons, List.foldl_nil, find?_set, List.filter_append]
    by_cases h : key = e.1
    · rw [if_pos h, List.filter_cons_of_pos (by simp [h]), List.filter_nil, List.getLast?_concat]
      rfl
    · rw [if_neg h, List.filter_cons_of_neg (by simpa using Ne.symm h), List.filter_nil,
        List.append_nil]
      exact ih

/-- **Keys that are set once each stay in their order.** -/
theorem ofList_of_nodup {es : Entries α} (h : (es.map Prod.fst).Nodup) :
    ofList es = es := by
  have hfold (before : Entries α) (hboth : ((before ++ es).map Prod.fst).Nodup) :
      es.foldl (fun acc e => set e.1 e.2 acc) before = before ++ es := by
    clear h
    induction es generalizing before with
    | nil => exact (List.append_nil before).symm
    | cons e es ih =>
      have hset : set e.1 e.2 before = before ++ [e] := by
        refine congrArg (· ++ [e]) (List.filter_eq_self.mpr fun x hx => ?_)
        rw [bne_iff_ne]
        intro heq
        rw [List.map_append, List.nodup_append] at hboth
        exact hboth.2.2 x.1 (List.mem_map_of_mem hx) e.1 List.mem_cons_self heq
      rw [List.foldl_cons, hset, ih _ (by rwa [List.append_assoc, List.singleton_append]),
        List.append_assoc, List.singleton_append]
  exact hfold [] h

end Entries

end DeckFilter
