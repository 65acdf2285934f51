import DeckFilter.Log.Report
import Mathlib.Tactic.SplitIfs

/-!
# What is said of a search path

A variable may hold bytes that are no text. As a search path they count for nothing, and a warning
shows them.

* `Log.quotedBytes_toUTF8`: the bytes of a text are shown as the text is;
* **`Environment.search_path_counts_or_is_told`**: what comes of the variable for the search path.
-/

namespace DeckFilter

/-! ## Bytes and texts -/

namespace Log

theorem size_utf8Encode_singleton (c : Char) : [c].utf8Encode.size = c.utf8Size := by
  simp [List.utf8Encode_singleton]

theorem utf8DecodeChar?_append (before : ByteArray) (c : Char) (cs : List Char) :
    (before ++ (c :: cs).utf8Encode).utf8DecodeChar? before.size = some c := by
  rw [ByteArray.utf8DecodeChar?_eq_utf8DecodeChar?_extract,
    ByteArray.extract_append_eq_right rfl ByteArray.size_append]
  exact List.utf8DecodeChar?_utf8Encode_cons

theorem quotedFrom_utf8Encode (before : ByteArray) (cs : List Char) {fuel : Nat}
    (hfuel : cs.utf8Encode.size ≤ fuel) :
    quotedFrom (before ++ cs.utf8Encode) fuel before.size = String.join (cs.map quotedChar) := by
  induction cs generalizing before fuel with
  | nil =>
    cases fuel with
    | zero => rfl
    | succ fuel =>
      rw [quotedFrom, if_pos (by simp)]
      rfl
  | cons c cs ih =>
    have hsize := size_utf8Encode_singleton c
    have hpos := c.utf8Size_pos
    rw [List.utf8Encode_cons, ByteArray.size_append] at hfuel
    obtain ⟨fuel, rfl⟩ := Nat.exists_eq_add_of_le' (show 1 ≤ fuel by omega)
    have hplace : ¬(before ++ (c :: cs).utf8Encode).size ≤ before.size := by
      rw [List.utf8Encode_cons, ByteArray.size_append, ByteArray.size_append]
      omega
    rw [quotedFrom, if_neg hplace, utf8DecodeChar?_append]
    dsimp only
    rw [← hsize, ← ByteArray.size_append, List.utf8Encode_cons, ← ByteArray.append_assoc,
      ih _ (by omega)]
    exact String.join_cons.symm

theorem quotedBytes_toUTF8 (s : String) : quotedBytes s.toUTF8 = quoted s := by
  rw [quotedBytes, quoted, String.toUTF8_eq_toByteArray, ← String.utf8Encode_toList,
    ← quotedFrom_utf8Encode .empty s.toList (Nat.le_refl _), ByteArray.empty_append]
  rfl

end Log

/-! ## The search path -/

theorem fromUTF8?_eq_some {value : ByteArray} {text : String} :
    String.fromUTF8? value = some text ↔ value = text.toUTF8 := by
  rw [String.fromUTF8?]
  split_ifs with hvalid
  · rw [Option.some.injEq]
    exact ⟨fun h => h ▸ rfl, fun h => by subst h; rfl⟩
  · refine iff_of_false nofun ?_
    rintro rfl
    exact hvalid text.isValidUTF8

theorem isSome_fromUTF8? {value : ByteArray} :
    (String.fromUTF8? value).isSome ↔ ∃ text : String, value = text.toUTF8 := by
  simp only [Option.isSome_iff_exists, fromUTF8?_eq_some]

namespace Environment

/-- **A search path counts, or it is told of.** It counts if its bytes are a text. If they are not,
there is one warning, which names the variable and shows the bytes; otherwise there is none. -/
theorem search_path_counts_or_is_told (config : Config) (lookup : String → Option ByteArray) :
    (∀ path : String, (ofVariables config lookup).searchPath = some path ↔
      lookup config.searchPathVar = some path.toUTF8) ∧
    (events config lookup = [] ↔ ∀ value, lookup config.searchPathVar = some value →
      ∃ path : String, value = path.toUTF8) ∧
    ∀ value, lookup config.searchPathVar = some value → (∀ path : String, value ≠ path.toUTF8) →
      events config lookup = [⟨.warn, "beamer_filter::config",
        "ignoring search path that is not valid UTF-8",
        [("var", config.searchPathVar), ("value", Log.quotedBytes value)]⟩] := by
  refine ⟨fun path => ?_, ?_, fun value hvalue htext => ?_⟩
  · rw [ofVariables, Option.bind_eq_some_iff]
    simp only [fromUTF8?_eq_some]
    exact exists_eq_right
  · rw [events]
    cases hvalue : lookup config.searchPathVar with
    | none => exact iff_of_true rfl nofun
    | some value =>
      dsimp only
      split_ifs with htext
      · refine iff_of_true rfl ?_
        rintro _ ⟨⟩
        exact isSome_fromUTF8?.mp htext
      · exact iff_of_false nofun fun h => htext (isSome_fromUTF8?.mpr (h value rfl))
  · rw [events, hvalue]
    exact if_neg fun h => (isSome_fromUTF8?.mp h).elim htext

end Environment

example : Environment.events .default (fun name => if name = "TEXINPUTS" then
    some ⟨#[0x61, 0xff, 0xe2, 0x82, 0xac]⟩ else none) =
      [⟨.warn, "beamer_filter::config", "ignoring search path that is not valid UTF-8",
        [("var", "TEXINPUTS"), ("value", "\"a\\xFF€\"")]⟩] := by
  decide +kernel

end DeckFilter
