import DeckFilter.Json.Parse
import DeckFilter.Proofs.Double.Finite
import DeckFilter.Proofs.Json.WellFormed

/-!
# What is parsed

A text is parsed to a well-formed value that nests no deeper than the limit.

* `Json.Literal.number?_wellFormed`: numbers;
* `Json.value_wellFormed`, `Json.parse?_wellFormed`: values.
-/

namespace DeckFilter

namespace Json

/-! ## Numbers -/

theorem absorb_lt : ∀ (ds : List Nat) {n : Nat}, n < UInt64.size → (absorb n ds).1 < UInt64.size
  | [], _, h => h
  | d :: ds, n, h => by
    rw [absorb]
    split_ifs with hd
    · exact absorb_lt ds hd
    · exact h

theorem scaleDown_isFinite (x : Double) (n : Nat) (hx : x.isFinite) : (scaleDown x n).isFinite := by
  induction x, n using scaleDown.induct with
  | case1 x n hn =>
    rw [scaleDown, dif_pos hn]
    exact Double.div_powTen_isFinite hx hn
  | case2 x n hn hzero =>
    rw [scaleDown, dif_neg hn, if_pos hzero]
    exact hx
  | case3 x n hn hzero ih =>
    rw [scaleDown, dif_neg hn, if_neg hzero]
    exact ih (Double.div_powTen_isFinite hx (Nat.le_refl 308))

theorem scaled_isFinite {n : Nat} {e : Int} {x : Double} (hn : n < UInt64.size)
    (h : scaled n e = some x) : x.isFinite := by
  have hof := Double.ofNat_isFinite hn
  simp only [scaled] at h
  split_ifs at h with h₁ h₂ h₃ h₄
  · cases h
    exact scaleDown_isFinite _ _ hof
  · cases h
    exact hof
  · cases h
    exact h₄

theorem neg_isFinite {x : Double} (h : x.isFinite) : x.neg.isFinite := h

/-- **A literal is a well-formed number.** -/
theorem Literal.number?_wellFormed {l : Literal} {n : Number} (h : l.number? = some n) :
    n.WellFormed := by
  have hzero : 0 < UInt64.size := by decide
  have hwhole := absorb_lt l.whole hzero
  have hinexact : ∀ (m : Nat) (e : Int), m < UInt64.size → ∀ n : Number,
      (scaled m e).map (fun x => Number.double (if l.negative then x.neg else x)) = some n →
        n.WellFormed := by
    intro m e hm n hn
    obtain ⟨x, hx, rfl⟩ := Option.map_eq_some_iff.mp hn
    have hfinite := scaled_isFinite hm hx
    cases l.negative
    · exact hfinite
    · exact neg_isFinite hfinite
  rw [number?] at h
  generalize absorb 0 l.whole = whole at hwhole h
  obtain ⟨m, spill⟩ := whole
  dsimp only at h
  split at h
  · have hmin : Int64.minValue.toInt = -9223372036854775808 := rfl
    have hsize : UInt64.size = 18446744073709551616 := rfl
    by_cases h₁ : spill ≠ []
    · rw [if_pos h₁] at h
      exact hinexact _ _ hwhole n h
    rw [if_neg h₁] at h
    by_cases h₂ : (!l.negative) = true
    · rw [if_pos h₂] at h
      cases h
      exact ⟨by omega, Int.ofNat_lt.mpr hwhole⟩
    rw [if_neg h₂] at h
    by_cases h₃ : m ≠ 0 ∧ 2 * m ≤ UInt64.size
    · rw [if_pos h₃] at h
      cases h
      exact ⟨by omega, by omega⟩
    · rw [if_neg h₃] at h
      exact hinexact _ _ hwhole n h
  · refine hinexact _ _ ?_ n h
    exact absorb_lt _ hwhole

/-! ## Values -/

/-- A well-formed value that nests at most `depth` deep. -/
def Bounded (depth : Nat) (v : Json) : Prop := v.WellFormed ∧ v.depth ≤ depth

theorem bounded_array {depth : Nat} {items : List Json} (h : ∀ v ∈ items, Bounded depth v) :
    Bounded (depth + 1) (array items) := by
  refine ⟨wellFormed_array.mpr fun v hv => (h v hv).1, ?_⟩
  have := depthItems_le.mpr fun v hv => (h v hv).2
  rw [Json.depth]
  omega

theorem bounded_ofMembers {depth : Nat} {members : List (String × Json)}
    (h : ∀ m ∈ members, Bounded depth m.2) : Bounded (depth + 1) (ofMembers members) := by
  refine ⟨wellFormed_ofMembers fun m hm => (h m hm).1, ?_⟩
  have hdepth : depthMembers (members.foldl (fun ms m => insert m.1 m.2 ms) []) ≤ depth :=
    depthMembers_le.mpr fun m hm => by
      rcases mem_foldl_insert members hm with hm | hm
      · exact (h m hm).2
      · exact absurd hm List.not_mem_nil
  rw [ofMembers, Json.depth]
  omega

theorem scalar_bounded {depth : Nat} {cs rest : List Char} {v : Json}
    (h : scalar cs = some (v, rest)) : Bounded depth v := by
  unfold scalar at h
  split at h
  · cases h
    exact ⟨trivial, Nat.zero_le _⟩
  · cases h
    exact ⟨trivial, Nat.zero_le _⟩
  · cases h
    exact ⟨trivial, Nat.zero_le _⟩
  · obtain ⟨p, -, hp⟩ := Option.map_eq_some_iff.mp h
    cases hp
    exact ⟨trivial, Nat.zero_le _⟩
  · obtain ⟨⟨l, rest'⟩, -, h⟩ := Option.bind_eq_some_iff.mp h
    obtain ⟨n, hn, h⟩ := Option.bind_eq_some_iff.mp h
    cases h
    exact ⟨Literal.number?_wellFormed hn, Nat.zero_le _⟩

section Sequences

variable {item : List Char → Option (Json × List Char)} {depth : Nat}
  (hitem : ∀ {cs v rest}, item cs = some (v, rest) → Bounded depth v)

include hitem

theorem items_bounded : ∀ (n : Nat) {cs rest : List Char} {vs : List Json},
    items item n cs = some (vs, rest) → ∀ v ∈ vs, Bounded depth v
  | 0, _, _, _, h => nomatch h
  | n + 1, cs, rest, vs, h => by
    obtain ⟨⟨v, cs'⟩, hv, h⟩ := Option.bind_eq_some_iff.mp h
    dsimp only at h
    split at h
    · obtain ⟨⟨ws, rest'⟩, hws, h⟩ := Option.bind_eq_some_iff.mp h
      cases h
      exact List.forall_mem_cons.mpr ⟨hitem hv, items_bounded n hws⟩
    · cases h
      exact List.forall_mem_singleton.mpr (hitem hv)
    · cases h

theorem members_bounded : ∀ (n : Nat) {cs rest : List Char} {ms : List (String × Json)},
    members item n cs = some (ms, rest) → ∀ m ∈ ms, Bounded depth m.2
  | 0, _, _, _, h => nomatch h
  | n + 1, cs, rest, ms, h => by
    unfold members at h
    split at h
    · obtain ⟨⟨k, cs'⟩, -, h⟩ := Option.bind_eq_some_iff.mp h
      dsimp only at h
      split at h
      · obtain ⟨⟨v, cs''⟩, hv, h⟩ := Option.bind_eq_some_iff.mp h
        dsimp only at h
        split at h
        · obtain ⟨⟨ns, rest'⟩, hns, h⟩ := Option.bind_eq_some_iff.mp h
          cases h
          exact List.forall_mem_cons.mpr ⟨hitem hv, members_bounded n hns⟩
        · cases h
          exact List.forall_mem_singleton.mpr (hitem hv)
        · cases h
      · cases h
    · cases h

theorem arrayRest_bounded {n : Nat} {cs rest : List Char} {v : Json}
    (h : arrayRest item n cs = some (v, rest)) : Bounded (depth + 1) v := by
  unfold arrayRest at h
  split at h
  · cases h
    exact bounded_array fun v hv => absurd hv List.not_mem_nil
  · obtain ⟨⟨vs, rest'⟩, hvs, h⟩ := Option.map_eq_some_iff.mp h
    cases h
    exact bounded_array (items_bounded hitem n hvs)

theorem objectRest_bounded {n : Nat} {cs rest : List Char} {v : Json}
    (h : objectRest item n cs = some (v, rest)) : Bounded (depth + 1) v := by
  unfold objectRest at h
  split at h
  · cases h
    exact @bounded_ofMembers depth [] fun m hm => absurd hm List.not_mem_nil
  · obtain ⟨⟨ms, rest'⟩, hms, h⟩ := Option.map_eq_some_iff.mp h
    cases h
    exact bounded_ofMembers (members_bounded hitem n hms)

end Sequences

/-- **A value that is parsed is well-formed and nests no deeper than it may.** -/
theorem value_bounded (n : Nat) : ∀ (depth : Nat) {cs rest : List Char} {v : Json},
    value n depth cs = some (v, rest) → Bounded depth v
  | 0, _, _, _, h => scalar_bounded h
  | depth + 1, cs, rest, v, h => by
    unfold value at h
    split at h
    · exact arrayRest_bounded (value_bounded n depth) h
    · exact objectRest_bounded (value_bounded n depth) h
    · exact scalar_bounded h

/-- **A text is parsed to a well-formed value within the limit.** -/
theorem parse?_bounded {s : String} {v : Json} (h : parse? s = some v) :
    v.WellFormed ∧ v.depth ≤ nestingLimit := by
  simp only [parse?] at h
  split at h
  · rename_i w rest hw
    split_ifs at h
    cases h
    exact value_bounded _ _ hw
  · cases h

theorem ofBytes?_bounded {bytes : ByteArray} {v : Json} (h : ofBytes? bytes = some v) :
    v.WellFormed ∧ v.depth ≤ nestingLimit := by
  obtain ⟨s, -, hs⟩ := Option.bind_eq_some_iff.mp h
  exact parse?_bounded hs

end Json

end DeckFilter
