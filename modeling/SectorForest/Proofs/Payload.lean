import Mathlib.Data.List.Forall2
import SectorForest.Logging

/-!
# Payloads of crashes

What a crash says of itself comes from outside: it may be of any length, and characters in it may
end lines. `sanitize` makes of it a text on one line that is at most three characters longer than a
limit. `sanitized_sanitize` says what becomes of which text, and that doing it again changes
nothing, although a text that was cut is longer than the limit. So the event of a crash is one line,
whatever the payload: `oneLine_crashEvent`.
-/

namespace SectorForest

/-- No character of a text ends a line. -/
def OneLine (text : String) : Prop :=
  '\n' ∉ text.toList ∧ '\r' ∉ text.toList

/-- A text with a blank in place of each character that ends a line. -/
def Unbroken (text line : String) : Prop :=
  List.Forall₂ (fun c d => d = if c = '\n' ∨ c = '\r' then ' ' else c) text.toList line.toList

/-- What is to become of a text where at most `limit` of its characters are kept. -/
structure Sanitized (text : String) (limit : Nat) (result : String) : Prop where
  one_line : OneLine result
  length_le : result.length ≤ limit + 3
  /-- A text that is short enough is kept as a whole. -/
  whole : text.length ≤ limit → Unbroken text result
  /-- Of another one its beginning is kept, and dots stand for the rest. -/
  cut : limit < text.length →
    ∃ line, Unbroken text line ∧ result.toList = line.toList.take limit ++ ['.', '.', '.']
  settled : sanitize result limit = result

variable {text : String} {limit : Nat}

instance : Decidable (OneLine text) :=
  inferInstanceAs (Decidable (_ ∧ _))

theorem oneLine_append {front back : String} :
    OneLine (front ++ back) ↔ OneLine front ∧ OneLine back := by
  simp only [OneLine, String.toList_append, List.mem_append, not_or]
  exact and_and_and_comm

/-! ## Characters -/

theorem payloadChar_of_ne {c : Char} (hfeed : c ≠ '\n') (hreturn : c ≠ '\r') :
    payloadChar c = c :=
  if_neg (not_or.mpr ⟨hfeed, hreturn⟩)

theorem payloadChar_ends_no_line (c : Char) : payloadChar c ≠ '\n' ∧ payloadChar c ≠ '\r' := by
  unfold payloadChar
  split
  · decide
  · rename_i hends
    exact not_or.mp hends

theorem payloadChar_payloadChar (c : Char) : payloadChar (payloadChar c) = payloadChar c :=
  payloadChar_of_ne (payloadChar_ends_no_line c).1 (payloadChar_ends_no_line c).2

/-- Characters that end no line are left alone. -/
theorem map_payloadChar_map (cs : List Char) :
    (cs.map payloadChar).map payloadChar = cs.map payloadChar := by
  rw [List.map_map]
  exact List.map_congr_left fun c _ => payloadChar_payloadChar c

theorem unbroken_map (text : String) :
    Unbroken text (String.ofList (text.toList.map payloadChar)) := by
  rw [Unbroken, String.toList_ofList, List.forall₂_map_right_iff]
  exact List.forall₂_same.mpr fun c _ => rfl

/-! ## Texts -/

theorem toList_sanitize_of_le (h : text.length ≤ limit) :
    (sanitize text limit).toList = text.toList.map payloadChar := by
  have hline : (text.toList.map payloadChar).length ≤ limit := by
    rwa [List.length_map, String.length_toList]
  rw [sanitize, String.toList_ofList, if_neg (Nat.not_lt.mpr hline), List.append_nil,
    List.take_of_length_le hline]

theorem toList_sanitize_of_lt (h : limit < text.length) :
    (sanitize text limit).toList =
      (text.toList.map payloadChar).take limit ++ ['.', '.', '.'] := by
  have hline : limit < (text.toList.map payloadChar).length := by
    rwa [List.length_map, String.length_toList]
  rw [sanitize, String.toList_ofList, if_pos hline]

/-- What has been cut is cut in the same place again, and the dots are put back. -/
theorem sanitize_cut {line : List Char} (hline : line.length = limit)
    (hunbroken : line.map payloadChar = line) :
    sanitize (String.ofList (line ++ ['.', '.', '.'])) limit =
      String.ofList (line ++ ['.', '.', '.']) := by
  have hlong : limit < (String.ofList (line ++ ['.', '.', '.'])).length := by
    rw [String.length_ofList, List.length_append, hline]
    exact Nat.lt_add_of_pos_right (by decide)
  apply String.toList_injective
  rw [toList_sanitize_of_lt hlong, String.toList_ofList, List.map_append, hunbroken, ← hline,
    List.take_left]

theorem sanitize_sanitize (text : String) (limit : Nat) :
    sanitize (sanitize text limit) limit = sanitize text limit := by
  rcases Nat.lt_or_ge limit text.length with hlong | hshort
  · have hlength : ((text.toList.map payloadChar).take limit).length = limit := by
      rw [List.length_take, List.length_map, String.length_toList]
      exact Nat.min_eq_left (Nat.le_of_lt hlong)
    have hcut := toList_sanitize_of_lt hlong
    rw [← String.ofList_toList (s := sanitize text limit), hcut]
    apply sanitize_cut hlength
    rw [List.map_take, map_payloadChar_map]
  · have hwhole := toList_sanitize_of_le hshort
    have hkept : (sanitize text limit).length ≤ limit := by
      rw [← String.length_toList, hwhole, List.length_map, String.length_toList]
      exact hshort
    apply String.toList_injective
    rw [toList_sanitize_of_le hkept, hwhole, map_payloadChar_map]

/-- Every character of the result was made from one of the text, or is a dot. -/
theorem mem_toList_sanitize {c : Char} (h : c ∈ (sanitize text limit).toList) :
    (∃ d, payloadChar d = c) ∨ c = '.' := by
  rw [sanitize, String.toList_ofList, List.mem_append] at h
  rcases h with hkept | hdots
  · obtain ⟨d, -, hd⟩ := List.mem_map.mp (List.mem_of_mem_take hkept)
    exact .inl ⟨d, hd⟩
  · split at hdots
    · right
      simpa using hdots
    · cases hdots

theorem oneLine_sanitize (text : String) (limit : Nat) : OneLine (sanitize text limit) := by
  constructor
  · intro hmem
    rcases mem_toList_sanitize hmem with ⟨d, hd⟩ | hdot
    · exact (payloadChar_ends_no_line d).1 hd
    · exact absurd hdot (by decide)
  · intro hmem
    rcases mem_toList_sanitize hmem with ⟨d, hd⟩ | hdot
    · exact (payloadChar_ends_no_line d).2 hd
    · exact absurd hdot (by decide)

theorem length_sanitize_le (text : String) (limit : Nat) :
    (sanitize text limit).length ≤ limit + 3 := by
  rcases Nat.lt_or_ge limit text.length with hlong | hshort
  · rw [← String.length_toList, toList_sanitize_of_lt hlong, List.length_append]
    exact Nat.add_le_add_right (List.length_take_le _ _) 3
  · rw [← String.length_toList, toList_sanitize_of_le hshort, List.length_map,
      String.length_toList]
    exact Nat.le_add_right_of_le hshort

/-- A text of any length and with any characters is brought onto one line and cut where it exceeds
the limit, and a second time nothing is left to do. -/
theorem sanitized_sanitize (text : String) (limit : Nat) :
    Sanitized text limit (sanitize text limit) where
  one_line := oneLine_sanitize text limit
  length_le := length_sanitize_le text limit
  whole := by
    intro hshort
    have hline := unbroken_map text
    rwa [← toList_sanitize_of_le hshort, String.ofList_toList] at hline
  cut := by
    intro hlong
    refine ⟨_, unbroken_map text, ?_⟩
    rw [toList_sanitize_of_lt hlong, String.toList_ofList]
  settled := sanitize_sanitize text limit

example : sanitize "a\r\n...." 3 = "a  ..." := by decide +kernel

/-- The event of a crash takes one line, whatever the payload. -/
theorem oneLine_crashEvent (payload : Option String) : OneLine (crashEvent payload).line := by
  have hline : (crashEvent payload).line = "ERROR" ++ " " ++
      (Event.heading "panic_captured" "core" "error" ++ " location=* payload=" ++
        sanitize (payload.getD "non-string panic payload") maxPayloadLength) := rfl
  rw [hline]
  exact oneLine_append.mpr ⟨by decide, oneLine_append.mpr ⟨by decide, oneLine_sanitize _ _⟩⟩

end SectorForest
