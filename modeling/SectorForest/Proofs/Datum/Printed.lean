import Mathlib.Data.List.Basic
import Mathlib.Tactic.SplitIfs
import SectorForest.Datum.Json
import SectorForest.Proofs.Datum.Fields

/-!
# Printed data

What `pretty` prints of a datum is a JSON text that denotes the datum, with the fields of all
records in the byte order of their names: `Printable.ofJson?_pretty`. That is so for data that JSON
text can tell: their whole numbers fit into 64 bits, and no two fields of a record share a name.
Floating point numbers are left out.

The text of a value is read to its end exactly if nothing follows that could belong to it. In a
printed text a comma follows, or the end of a line, or nothing: `Follows`.
-/

namespace SectorForest.Datum

open Text

/-- What may come after a value in a printed text. -/
def Follows (rest : List Char) : Prop :=
  ∀ c ∈ rest.head?, c = ',' ∨ c = '\n'

theorem follows_comma (rest : List Char) : Follows (',' :: rest) := by
  rintro _ ⟨⟩
  exact .inl rfl

theorem follows_newline (level : Nat) (rest : List Char) :
    Follows ((newline level).toList ++ rest) := by
  rw [newline, String.toList_ofList]
  rintro _ ⟨⟩
  exact .inr rfl

/-! ## Strings -/

theorem jsonStringRest_escaped {c e : Char} (he : e ≠ 'u') (h : jsonEscape? e = some c)
    (rest : List Char) :
    jsonStringRest ('\\' :: e :: rest) = andThen c (jsonStringRest rest) := by
  rw [jsonStringRest, h]
  · rfl
  · rintro _ _ _ _ _ rfl
    exact absurd rfl he

theorem jsonStringRest_control {c : Char} (h : c.toNat < 0x20) (rest : List Char) :
    jsonStringRest ('\\' :: 'u' :: '0' :: '0' :: Nat.digitChar (c.toNat / 16) ::
      Nat.digitChar (c.toNat % 16) :: rest) = andThen c (jsonStringRest rest) := by
  have hcodes : ∀ n < 0x20,
      hexNumber? ['0', '0', Nat.digitChar (n / 16), Nat.digitChar (n % 16)] = some n ∧
        charOfCode? n = some (Char.ofNat n) := by decide
  obtain ⟨hnumber, hchar⟩ := hcodes c.toNat h
  rw [Char.ofNat_toNat] at hchar
  rw [jsonStringRest, hnumber]
  simp only [Option.bind_eq_bind, Option.bind_some, hchar]

theorem jsonStringRest_plain {c : Char} (hquote : c ≠ '"') (hslash : c ≠ '\\')
    (h : 0x20 ≤ c.toNat) (rest : List Char) :
    jsonStringRest (c :: rest) = andThen c (jsonStringRest rest) := by
  rw [jsonStringRest, if_pos ⟨hslash, h⟩]
  · exact hquote
  · exact fun _ _ _ _ _ hc => absurd hc hslash
  · exact fun _ _ hc => absurd hc hslash

/-- A character is read from what is written for it. -/
theorem jsonStringRest_jsonChar (c : Char) (rest : List Char) :
    jsonStringRest (jsonChar c ++ rest) = andThen c (jsonStringRest rest) := by
  have hcoded {n : Nat} (h : c.toNat = n) : c = Char.ofNat n := by rw [← h, Char.ofNat_toNat]
  unfold jsonChar
  split_ifs with hquote hslash hfeed hreturn htab hback hform hcontrol
  · subst hquote; exact jsonStringRest_escaped (by decide) rfl rest
  · subst hslash; exact jsonStringRest_escaped (by decide) rfl rest
  · subst hfeed; exact jsonStringRest_escaped (by decide) rfl rest
  · subst hreturn; exact jsonStringRest_escaped (by decide) rfl rest
  · subst htab; exact jsonStringRest_escaped (by decide) rfl rest
  · rw [hcoded hback]; exact jsonStringRest_escaped (by decide) rfl rest
  · rw [hcoded hform]; exact jsonStringRest_escaped (by decide) rfl rest
  · exact jsonStringRest_control hcontrol rest
  · exact jsonStringRest_plain hquote hslash (Nat.le_of_not_lt hcontrol) rest

theorem jsonStringRest_flatMap (cs rest : List Char) :
    jsonStringRest (cs.flatMap jsonChar ++ '"' :: rest) = some (cs, rest) := by
  induction cs with
  | nil => rw [List.flatMap_nil, List.nil_append, jsonStringRest]
  | cons c cs ih =>
    rw [List.flatMap_cons, List.append_assoc, jsonStringRest_jsonChar, ih]
    rfl

theorem toList_jsonText (s : String) :
    (jsonText s).toList = '"' :: (s.toList.flatMap jsonChar ++ ['"']) := by
  rw [jsonText, String.toList_ofList]

/-- A text is read from what is written for it, whatever follows. -/
theorem jsonString_jsonText (s : String) (rest : List Char) :
    jsonString ((jsonText s).toList ++ rest) = some (s, rest) := by
  rw [toList_jsonText, List.cons_append, List.append_assoc, jsonString, List.singleton_append,
    jsonStringRest_flatMap, Option.map_some]
  exact congrArg (fun text => some (text, rest)) String.ofList_toList

/-! ## Numbers -/

theorem digitsValue_toDigits (n : Nat) : digitsValue 10 (Nat.toDigits 10 n) = n := by
  have hdigit : ∀ c ∈ Nat.toDigits 10 n, (hexDigit? c).getD 0 = c.toNat - '0'.toNat := by
    intro c hc
    have hdigit := Nat.isDigit_of_mem_toDigits (by decide) (by decide) hc
    have hbounds : '0' ≤ c ∧ c ≤ '9' := by
      simpa [Char.isDigit, Char.le_def] using hdigit
    rw [hexDigit?, if_pos hbounds, Option.getD_some]
  have hsame : digitsValue 10 (Nat.toDigits 10 n) = Nat.ofDigitChars 10 (Nat.toDigits 10 n) 0 :=
    List.foldl_ext _ _ _ fun sofar c hc => by rw [hdigit c hc]
  rw [hsame, Nat.ofDigitChars_ten_toDigits]

/-- Only the number zero begins with a zero. -/
theorem head_toDigits {n : Nat} (h : 0 < n) :
    ∃ c cs, Nat.toDigits 10 n = c :: cs ∧ c ≠ '0' := by
  induction n using Nat.strongRecOn with
  | ind n ih =>
    rcases Nat.lt_or_ge n 10 with hlt | hge
    · refine ⟨Nat.digitChar n, [], Nat.toDigits_of_lt_base hlt, fun hzero => ?_⟩
      exact absurd (Nat.digitChar_eq_zero.mp hzero) (Nat.ne_of_gt h)
    · obtain ⟨c, cs, hcs, hc⟩ := ih (n / 10) (by omega) (by omega)
      exact ⟨c, cs ++ [Nat.digitChar (n % 10)],
        by rw [Nat.toDigits_of_base_le (by decide) hge, hcs, List.cons_append], hc⟩

theorem not_isDigit_of_follows {rest : List Char} (h : Follows rest) :
    rest.takeWhile Char.isDigit = [] := by
  cases rest with
  | nil => rfl
  | cons c rest =>
    rcases h c rfl with rfl | rfl <;> rfl

theorem jsonSign_toDigits (n : Nat) (rest : List Char) :
    jsonSign (Nat.toDigits 10 n ++ rest) = (false, Nat.toDigits 10 n ++ rest) := by
  obtain ⟨c, cs, hcs⟩ := List.exists_cons_of_ne_nil (Nat.toDigits_ne_nil (b := 10) (n := n))
  have hdigit : c.isDigit = true :=
    Nat.isDigit_of_mem_toDigits (by decide) (by decide) (hcs ▸ List.mem_cons_self)
  rw [hcs, List.cons_append, jsonSign]
  rintro _ ⟨⟩
  exact absurd hdigit (by decide)

/-- The digits of a number are read as its whole part. -/
theorem jsonWhole_toDigits (n : Nat) {rest : List Char} (h : Follows rest) :
    jsonWhole (Nat.toDigits 10 n ++ rest) = Nat.toDigits 10 n := by
  rcases Nat.eq_zero_or_pos n with rfl | hpos
  · rfl
  · obtain ⟨c, cs, hcs, hc⟩ := head_toDigits hpos
    have hdigits : ∀ c ∈ Nat.toDigits 10 n, c.isDigit = true :=
      fun c hc => Nat.isDigit_of_mem_toDigits (by decide) (by decide) hc
    have hwhole : (Nat.toDigits 10 n ++ rest).takeWhile Char.isDigit = Nat.toDigits 10 n := by
      rw [List.takeWhile_append_of_pos hdigits, not_isDigit_of_follows h, List.append_nil]
    rw [hcs, List.cons_append] at hwhole ⊢
    rw [jsonWhole, hwhole]
    exact fun _ hzero => hc (List.cons.inj hzero).1

theorem jsonPlaces_of_follows {rest : List Char} (h : Follows rest) :
    jsonPlaces rest = some (none, rest) := by
  cases rest with
  | nil => rfl
  | cons c rest => rcases h c rfl with rfl | rfl <;> rfl

theorem jsonExponent_of_follows {rest : List Char} (h : Follows rest) :
    jsonExponent rest = some (none, rest) := by
  cases rest with
  | nil => rfl
  | cons c rest => rcases h c rfl with rfl | rfl <;> rfl

/-- A whole number of 64 bits is read from its sign and its digits. -/
theorem jsonNumber_of_sign {cs rest : List Char} {negative : Bool} {n : Nat}
    (hsign : jsonSign cs = (negative, Nat.toDigits 10 n ++ rest)) (h : Follows rest) :
    jsonNumber cs =
      if !negative && (n : Int) < UInt64.size then some (.integer n, rest)
      else if negative && 0 < (n : Int) && Int64.minValue.toInt ≤ -(n : Int) then
        some (.integer (-n), rest)
      else (jsonFloat negative (Nat.toDigits 10 n) [] 0).bind fun x => some (.float x, rest) := by
  have hnonempty : (Nat.toDigits 10 n).isEmpty = false := by
    rw [List.isEmpty_eq_false_iff]
    exact Nat.toDigits_ne_nil
  simp only [jsonNumber, hsign, jsonWhole_toDigits n h, hnonempty, List.drop_left,
    jsonPlaces_of_follows h, jsonExponent_of_follows h, digitsValue_toDigits, Option.isNone_none,
    Option.bind_eq_bind, Option.bind_some, Bool.true_and, Bool.false_eq_true, if_false,
    Option.getD_none]

theorem toString_eq (i : Int) :
    toString i = if 0 ≤ i then i.toNat.repr else "-" ++ (-i).toNat.repr :=
  Int.repr_eq_if

/-- A number begins with a sign or a digit. -/
theorem head_toString (i : Int) :
    ∃ c cs, (toString i).toList = c :: cs ∧ (c = '-' ∨ c.isDigit = true) := by
  rw [toString_eq]
  split_ifs
  · obtain ⟨c, cs, hcs⟩ :=
      List.exists_cons_of_ne_nil (Nat.toDigits_ne_nil (b := 10) (n := i.toNat))
    refine ⟨c, cs, by rw [Nat.toList_repr, hcs], .inr ?_⟩
    exact Nat.isDigit_of_mem_toDigits (by decide) (by decide) (hcs ▸ List.mem_cons_self)
  · exact ⟨'-', _, by rw [String.toList_append]; rfl, .inl rfl⟩

theorem jsonValue_number {c : Char} (h : c = '-' ∨ c.isDigit = true) (fuel : Nat)
    (rest : List Char) : jsonValue fuel (c :: rest) = jsonNumber (c :: rest) := by
  rw [jsonValue]
  case x_3 | x_4 => rintro _ _ _ ⟨⟩; exact absurd h (by decide)
  all_goals rintro _ ⟨⟩; exact absurd h (by decide)

/-- A whole number of 64 bits is read from its digits and its sign. -/
theorem jsonNumber_toString {i : Int} (hmin : Int64.minValue.toInt ≤ i) (hmax : i < UInt64.size)
    {rest : List Char} (h : Follows rest) :
    jsonNumber ((toString i).toList ++ rest) = some (.integer i, rest) := by
  rw [toString_eq]
  split_ifs with hsign
  · rw [Nat.toList_repr, jsonNumber_of_sign (jsonSign_toDigits i.toNat rest) h,
      Int.toNat_of_nonneg hsign, if_pos (by simpa using hmax)]
  · have hsigned : jsonSign (("-" ++ (-i).toNat.repr).toList ++ rest) =
        (true, Nat.toDigits 10 (-i).toNat ++ rest) := by
      rw [String.toList_append, Nat.toList_repr]
      rfl
    have hvalue : ((-i).toNat : Int) = -i := Int.toNat_of_nonneg (by omega)
    have hfits : (true && decide (0 < -i) && decide (Int64.minValue.toInt ≤ - -i)) = true := by
      rw [Int.neg_neg, Bool.true_and, Bool.and_eq_true, decide_eq_true_iff, decide_eq_true_iff]
      exact ⟨by omega, hmin⟩
    rw [jsonNumber_of_sign hsigned h, hvalue, if_neg (by simp), if_pos hfits, Int.neg_neg]

/-! ## Gaps -/

theorem skipJsonGaps_newline (level : Nat) (cs : List Char) :
    skipJsonGaps ((newline level).toList ++ cs) = skipJsonGaps cs := by
  rw [newline, String.toList_ofList]
  refine List.dropWhile_append_of_pos fun c hc => ?_
  rcases List.mem_cons.mp hc with rfl | hc
  · rfl
  · rw [List.eq_of_mem_replicate hc]
    rfl

/-- A text that begins with what is neither a gap nor closes a list or a record. -/
def Begins (cs : List Char) : Prop :=
  ∃ c rest, cs = c :: rest ∧ isJsonGap c = false ∧ c ≠ ']' ∧ c ≠ '\x7d'

theorem Begins.skipJsonGaps {cs : List Char} (h : Begins cs) (rest : List Char) :
    skipJsonGaps (cs ++ rest) = cs ++ rest := by
  obtain ⟨c, cs, rfl, hgap, -⟩ := h
  exact List.dropWhile_cons_of_neg (by simp [hgap])

theorem Begins.expect?_eq_none {cs : List Char} (h : Begins cs) {close : Char}
    (hclose : close = ']' ∨ close = '\x7d') (rest : List Char) :
    expect? close (cs ++ rest) = none := by
  obtain ⟨c, cs, rfl, -, hbracket, hbrace⟩ := h
  refine if_neg fun heq => ?_
  rcases hclose with rfl | rfl
  · exact hbracket heq
  · exact hbrace heq

theorem Begins.append {cs : List Char} (h : Begins cs) (more : List Char) :
    Begins (cs ++ more) := by
  obtain ⟨c, cs, rfl, hc⟩ := h
  exact ⟨c, cs ++ more, rfl, hc⟩

theorem begins_number {c : Char} (h : c = '-' ∨ c.isDigit = true) (cs : List Char) :
    Begins (c :: cs) := by
  refine ⟨c, cs, rfl, ?_, ?_, ?_⟩
  · simp only [isJsonGap, Bool.or_eq_false_iff, decide_eq_false_iff_not]
    refine ⟨⟨⟨?_, ?_⟩, ?_⟩, ?_⟩ <;> rintro rfl <;> exact absurd h (by decide)
  · rintro rfl; exact absurd h (by decide)
  · rintro rfl; exact absurd h (by decide)

theorem begins_jsonText (s : String) : Begins (jsonText s).toList := by
  rw [toList_jsonText]
  exact ⟨'"', _, rfl, by decide⟩

/-! ## Items between brackets -/

section Items

variable {α β : Type} {item : Scan α} {value : β → α} {line : β → List Char} {xs : List β}
  {fuel : Nat}

/-- Items are read up to a text that begins with no comma. -/
theorem separated_intercalate
    (hitem : ∀ x ∈ xs, ∀ rest, Follows rest →
      item (line x ++ rest) = some (value x, skipJsonGaps rest))
    (hne : xs ≠ []) (hfuel : xs.length ≤ fuel) {rest : List Char} (hrest : Follows rest)
    (hend : expect? ',' (skipJsonGaps rest) = none) :
    separated item ',' fuel ([','].intercalate (xs.map line) ++ rest) =
      some (xs.map value, skipJsonGaps rest) := by
  induction xs generalizing fuel with
  | nil => exact absurd rfl hne
  | cons x xs ih =>
    obtain ⟨fuel, rfl⟩ := Nat.exists_eq_add_of_lt (Nat.lt_of_lt_of_le (Nat.succ_pos _) hfuel)
    rw [Nat.zero_add, separated]
    cases xs with
    | nil =>
      -- no comma follows the last item, so it ends the list
      have hfirst := hitem x List.mem_cons_self rest hrest
      simp only [List.map_cons, List.map_nil, List.intercalate_singleton, hfirst, hend,
        Option.bind_none]
    | cons y ys =>
      have hfewer : (y :: ys).length ≤ fuel := by simpa using hfuel
      have hothers := ih (fun z hz => hitem z (List.mem_cons_of_mem x hz)) (List.cons_ne_nil y ys)
        hfewer
      have hsplit : [','].intercalate ((x :: y :: ys).map line) ++ rest =
          line x ++ ',' :: ([','].intercalate ((y :: ys).map line) ++ rest) := by
        simp only [List.map_cons, List.intercalate_cons_cons, List.append_assoc, List.cons_append,
          List.nil_append]
      have hmark (cs : List Char) : expect? ',' (skipJsonGaps (',' :: cs)) = some cs := rfl
      rw [hsplit, hitem x List.mem_cons_self _ (follows_comma _)]
      simp only [hmark, Option.bind_some, hothers]
      rfl

theorem exists_intercalate_cons (x : List Char) (xs : List (List Char)) :
    ∃ more, [','].intercalate (x :: xs) = x ++ more := by
  cases xs with
  | nil => exact ⟨[], by rw [List.intercalate_singleton, List.append_nil]⟩
  | cons y ys => exact ⟨_, by rw [List.intercalate_cons_cons, List.append_assoc]⟩

/-- What stands between the brackets of a block, and the one that closes it. -/
def blockRest (close : Char) (level : Nat) : List (List Char) → List Char
  | [] => [close]
  | lines =>
    [','].intercalate (lines.map ((newline (level + 1)).toList ++ ·)) ++
      ((newline level).toList ++ [close])

theorem toList_block (start close : Char) (level : Nat) (lines : List String) :
    (block (String.singleton start) (String.singleton close) level lines).toList =
      start :: blockRest close level (lines.map String.toList) := by
  cases lines with
  | nil => simp [block, blockRest]
  | cons line lines =>
    simp only [block, blockRest, String.toList_append, String.toList_intercalate,
      String.toList_singleton, List.map_map, List.map_cons, List.append_assoc, List.cons_append,
      List.nil_append, Function.comp_def]
    rfl

/-- Whatever stands on the lines of a block is read, up to the closing bracket. -/
theorem listed_blockRest {close : Char} (hclose : close = ']' ∨ close = '\x7d') (level : Nat)
    (hbegins : ∀ x ∈ xs, Begins (line x))
    (hitem : ∀ x ∈ xs, ∀ rest, Follows rest →
      item ((newline (level + 1)).toList ++ line x ++ rest) = some (value x, skipJsonGaps rest))
    (hfuel : xs.length ≤ fuel) (rest : List Char) :
    listed item close fuel (blockRest close level (xs.map line) ++ rest) =
      some (xs.map value, rest) := by
  have hgap : isJsonGap close = false := by rcases hclose with rfl | rfl <;> rfl
  have hskip : skipJsonGaps (close :: rest) = close :: rest :=
    List.dropWhile_cons_of_neg (by simp [hgap])
  have hfound : expect? close (close :: rest) = some rest := if_pos rfl
  cases xs with
  | nil =>
    rw [List.map_nil, blockRest, List.singleton_append, listed, hskip, hfound]
    rfl
  | cons x xs =>
    have hsplit : blockRest close level ((x :: xs).map line) ++ rest =
        [','].intercalate ((x :: xs).map fun x => (newline (level + 1)).toList ++ line x) ++
          ((newline level).toList ++ close :: rest) := by
      simp only [blockRest, List.map_cons, List.map_map, List.append_assoc, List.singleton_append,
        Function.comp_def]
    have hend : skipJsonGaps ((newline level).toList ++ close :: rest) = close :: rest := by
      rw [skipJsonGaps_newline, hskip]
    have hcomma : expect? ',' (close :: rest) = none := by rcases hclose with rfl | rfl <;> rfl
    have hread : separated item ',' fuel
        ([','].intercalate ((x :: xs).map fun x => (newline (level + 1)).toList ++ line x) ++
          ((newline level).toList ++ close :: rest)) =
        some ((x :: xs).map value, skipJsonGaps ((newline level).toList ++ close :: rest)) :=
      separated_intercalate hitem (List.cons_ne_nil x xs) hfuel
        (follows_newline level (close :: rest)) (by rw [hend, hcomma])
    obtain ⟨more, hmore⟩ := exists_intercalate_cons ((newline (level + 1)).toList ++ line x)
      (xs.map fun x => (newline (level + 1)).toList ++ line x)
    have hopen : expect? close (skipJsonGaps (blockRest close level ((x :: xs).map line) ++ rest)) =
        none := by
      rw [hsplit, List.map_cons, hmore, List.append_assoc, List.append_assoc, skipJsonGaps_newline,
        (hbegins x List.mem_cons_self).skipJsonGaps,
        (hbegins x List.mem_cons_self).expect?_eq_none hclose]
    rw [listed, hopen, hsplit, hread, hend]
    simp only [Option.bind_eq_bind, Option.bind_some, hfound]

/-- A text of several lines is as long as each of them, and no shorter than their number if none is
empty. -/
theorem length_le_length_intercalate {lines : List (List Char)} (h : ∀ x ∈ lines, x ≠ []) :
    lines.length ≤ ([','].intercalate lines).length ∧
      ∀ x ∈ lines, x.length ≤ ([','].intercalate lines).length := by
  induction lines with
  | nil => exact ⟨Nat.zero_le _, by simp⟩
  | cons x xs ih =>
    have hx : 0 < x.length := List.length_pos_of_ne_nil (h x List.mem_cons_self)
    cases xs with
    | nil => simpa using Nat.succ_le_of_lt hx
    | cons y ys =>
      obtain ⟨hcount, hlines⟩ := ih fun z hz => h z (List.mem_cons_of_mem x hz)
      rw [List.intercalate_cons_cons, List.append_assoc, List.length_append, List.length_append,
        List.length_cons]
      refine ⟨by omega, fun z hz => ?_⟩
      rcases List.mem_cons.mp hz with rfl | hz
      · exact Nat.le_add_right _ _
      · have := hlines z hz
        omega

theorem length_le_length_blockRest (close : Char) (level : Nat) (lines : List (List Char)) :
    lines.length ≤ (blockRest close level lines).length ∧
      ∀ x ∈ lines, x.length ≤ (blockRest close level lines).length := by
  cases lines with
  | nil => exact ⟨Nat.zero_le _, by simp⟩
  | cons x xs =>
    let broken := (x :: xs).map ((newline (level + 1)).toList ++ ·)
    have hnonempty : ∀ y ∈ broken, y ≠ [] := by
      intro y hy
      obtain ⟨z, -, rfl⟩ := List.mem_map.mp hy
      rw [newline, String.toList_ofList]
      exact List.cons_ne_nil _ _
    have hinner : ([','].intercalate broken).length ≤ (blockRest close level (x :: xs)).length := by
      rw [blockRest, List.length_append]
      · exact Nat.le_add_right _ _
      · exact List.cons_ne_nil x xs
    obtain ⟨hcount, hlines⟩ := length_le_length_intercalate hnonempty
    rw [List.length_map] at hcount
    refine ⟨Nat.le_trans hcount hinner, fun y hy => ?_⟩
    have hline := hlines _ (List.mem_map_of_mem hy)
    rw [List.length_append] at hline
    omega

/-- A text of as many characters as a block has room for the number of its lines, and for each of
them. -/
theorem exists_room {start close : Char} {level : Nat} {lines : List (List Char)}
    (h : (start :: blockRest close level lines).length ≤ fuel) :
    ∃ room, fuel = room + 1 ∧ lines.length ≤ room ∧ ∀ x ∈ lines, x.length ≤ room := by
  obtain ⟨room, rfl⟩ := Nat.exists_eq_add_of_lt (Nat.lt_of_lt_of_le (Nat.succ_pos _) h)
  rw [Nat.zero_add] at h
  have hinner := Nat.le_of_succ_le_succ h
  obtain ⟨hcount, hlines⟩ := length_le_length_blockRest close level lines
  exact ⟨room, by rw [Nat.zero_add], Nat.le_trans hcount hinner,
    fun x hx => Nat.le_trans (hlines x hx) hinner⟩

end Items

/-! ## Lists and records -/

theorem prettyItems_eq (level : Nat) (items : List Datum) :
    prettyItems level items = items.map (prettyAt level) := by
  induction items with
  | nil => rfl
  | cons d items ih => rw [prettyItems, ih, List.map_cons]

theorem prettyFields_eq (level : Nat) (fields : List (String × Datum)) :
    prettyFields level fields = fields.map fun f => (f.1, prettyAt level f.2) := by
  induction fields with
  | nil => rfl
  | cons f fields ih => rw [prettyFields, ih, List.map_cons]

/-- A field's line in a printed record. -/
def fieldLine (level : Nat) (f : String × Datum) : String :=
  jsonText f.1 ++ ": " ++ prettyAt level f.2

/-- A record is printed as the lines of its fields, sorted. -/
theorem prettyAt_record (level : Nat) (fields : List (String × Datum)) :
    prettyAt level (.record fields) =
      block "\x7b" "\x7d" level ((sortFields fields).map (fieldLine (level + 1))) := by
  have hsort : sortPrinted (prettyFields (level + 1) fields) =
      (sortFields fields).map fun f => (f.1, prettyAt (level + 1) f.2) := by
    rw [prettyFields_eq, sortPrinted, sortFields, List.map_mergeSort]
    exact fun _ _ _ _ => rfl
  rw [prettyAt, hsort, List.map_map]
  rfl

theorem canonical_record (fields : List (String × Datum)) :
    canonical (.record fields) =
      .record ((sortFields fields).map fun f => (f.1, f.2.canonical)) := by
  rw [canonical, canonicalFields_eq, sortFields, sortFields, List.map_mergeSort]
  exact fun _ _ _ _ => rfl

/-- Fields of distinct names are all kept, in order. -/
theorem foldl_setField {fields : List (String × Datum)} (front : List (String × Datum))
    (h : (names (front ++ fields)).Nodup) : fields.foldl setField front = front ++ fields := by
  induction fields generalizing front with
  | nil => exact (List.append_nil front).symm
  | cons f fields ih =>
    have hnew : front.any (·.1 == f.1) = false := by
      rw [names_append] at h
      refine List.any_eq_false.mpr fun g hg hname => ?_
      exact List.disjoint_of_nodup_append h (List.mem_map_of_mem hg)
        (beq_iff_eq.mp hname ▸ List.mem_cons_self)
    rw [List.foldl_cons, setField, hnew, if_neg Bool.false_ne_true, ih, List.append_assoc,
      List.singleton_append]
    rwa [List.append_assoc, List.singleton_append]

/-- A datum that JSON text can tell: its whole numbers fit into 64 bits, and its records have no two
fields of one name. -/
inductive Printable : Datum → Prop
  | null : Printable .null
  | boolean (value : Bool) : Printable (.boolean value)
  | integer {value : Int} (hmin : Int64.minValue.toInt ≤ value) (hmax : value < UInt64.size) :
      Printable (.integer value)
  | text (value : String) : Printable (.text value)
  | list {items : List Datum} (h : ∀ d ∈ items, Printable d) : Printable (.list items)
  | record {fields : List (String × Datum)} (hnames : (names fields).Nodup)
      (h : ∀ f ∈ fields, Printable f.2) : Printable (.record fields)

variable {d : Datum}

theorem toList_prettyAt_null (level : Nat) :
    (prettyAt level .null).toList = ['n', 'u', 'l', 'l'] := by
  rw [prettyAt]
  rfl

theorem toList_prettyAt_boolean (level : Nat) (value : Bool) :
    (prettyAt level (.boolean value)).toList =
      bif value then ['t', 'r', 'u', 'e'] else ['f', 'a', 'l', 's', 'e'] := by
  rw [prettyAt]
  cases value <;> rfl

/-- The text of a list. -/
theorem toList_prettyAt_list (level : Nat) (items : List Datum) :
    (prettyAt level (.list items)).toList =
      '[' :: blockRest ']' level (items.map fun d => (prettyAt (level + 1) d).toList) := by
  rw [prettyAt, prettyItems_eq]
  refine (toList_block '[' ']' level _).trans ?_
  rw [List.map_map]
  rfl

/-- The text of a record. -/
theorem toList_prettyAt_record (level : Nat) (fields : List (String × Datum)) :
    (prettyAt level (.record fields)).toList =
      '\x7b' :: blockRest '\x7d' level
        ((sortFields fields).map fun f => (fieldLine (level + 1) f).toList) := by
  rw [prettyAt_record]
  refine (toList_block '\x7b' '\x7d' level _).trans ?_
  rw [List.map_map]
  rfl

theorem Printable.begins (h : Printable d) (level : Nat) : Begins (prettyAt level d).toList := by
  cases h with
  | null => exact ⟨'n', _, toList_prettyAt_null level, by decide⟩
  | boolean value =>
    rw [toList_prettyAt_boolean]
    cases value with
    | false => exact ⟨'f', _, rfl, by decide⟩
    | true => exact ⟨'t', _, rfl, by decide⟩
  | @integer value _ _ =>
    obtain ⟨c, cs, hcs, hc⟩ := head_toString value
    rw [prettyAt, hcs]
    exact begins_number hc cs
  | text value =>
    rw [prettyAt]
    exact begins_jsonText value
  | list _ => exact ⟨'[', _, toList_prettyAt_list level _, by decide⟩
  | record _ _ => exact ⟨'\x7b', _, toList_prettyAt_record level _, by decide⟩

theorem begins_fieldLine (level : Nat) (f : String × Datum) :
    Begins (fieldLine level f).toList := by
  rw [fieldLine, String.toList_append, String.toList_append, List.append_assoc]
  exact (begins_jsonText f.1).append _

section Nested

variable {level room : Nat}

/-- A value is read from what is printed of a datum inside another. -/
def Reads (room level : Nat) (d : Datum) : Prop :=
  ∀ rest, Follows rest →
    jsonValue room ((prettyAt level d).toList ++ rest) = some (d.canonical, rest)

/-- A list is read whose items are read. -/
theorem jsonValue_list {items : List Datum} (hitems : ∀ d ∈ items, Printable d)
    (hreads : ∀ d ∈ items, Reads room (level + 1) d) (hroom : items.length ≤ room)
    (rest : List Char) :
    jsonValue (room + 1) ((prettyAt level (.list items)).toList ++ rest) =
      some ((Datum.list items).canonical, rest) := by
  have hitem : ∀ d ∈ items, ∀ rest, Follows rest →
      spaced (jsonValue room) ((newline (level + 1)).toList ++ (prettyAt (level + 1) d).toList ++
        rest) = some (d.canonical, skipJsonGaps rest) := by
    intro d hd rest hrest
    rw [spaced, List.append_assoc, skipJsonGaps_newline,
      ((hitems d hd).begins (level + 1)).skipJsonGaps, hreads d hd rest hrest, Option.map_some]
  have hread := listed_blockRest (.inl rfl) level
    (fun d hd => (hitems d hd).begins (level + 1)) hitem hroom rest
  rw [toList_prettyAt_list, List.cons_append, jsonValue, hread, canonical, canonicalItems_eq,
    Option.map_some]

/-- A field is read whose value is read. -/
theorem jsonField_fieldLine {f : String × Datum} (hf : Printable f.2)
    (hreads : Reads room (level + 1) f.2) {rest : List Char} (hrest : Follows rest) :
    jsonField (jsonValue room)
        ((newline (level + 1)).toList ++ (fieldLine (level + 1) f).toList ++ rest) =
      some ((f.1, f.2.canonical), skipJsonGaps rest) := by
  let text := (prettyAt (level + 1) f.2).toList
  have hline : (fieldLine (level + 1) f).toList ++ rest =
      (jsonText f.1).toList ++ ':' :: ' ' :: (text ++ rest) := by
    rw [fieldLine, String.toList_append, String.toList_append, List.append_assoc, List.append_assoc]
    rfl
  have hcolon (cs : List Char) : expect? ':' (skipJsonGaps (':' :: cs)) = some cs := rfl
  have hblank : skipJsonGaps (' ' :: (text ++ rest)) = text ++ rest :=
    (hf.begins (level + 1)).skipJsonGaps rest
  rw [jsonField, List.append_assoc, skipJsonGaps_newline, hline,
    (begins_jsonText f.1).skipJsonGaps, jsonString_jsonText]
  simp only [Option.bind_eq_bind, Option.bind_some, hcolon, spaced, hblank, text,
    hreads rest hrest, Option.map_some]

/-- A record is read whose fields are read, in the order of their names. -/
theorem jsonValue_record {fields : List (String × Datum)} (hnames : (names fields).Nodup)
    (hfields : ∀ f ∈ fields, Printable f.2) (hreads : ∀ f ∈ fields, Reads room (level + 1) f.2)
    (hroom : fields.length ≤ room) (rest : List Char) :
    jsonValue (room + 1) ((prettyAt level (.record fields)).toList ++ rest) =
      some ((Datum.record fields).canonical, rest) := by
  have hmem : ∀ f ∈ sortFields fields, f ∈ fields :=
    fun f => (sortFields_perm fields).mem_iff.mp
  have hitem : ∀ f ∈ sortFields fields, ∀ rest, Follows rest →
      jsonField (jsonValue room) ((newline (level + 1)).toList ++ (fieldLine (level + 1) f).toList ++
        rest) = some ((f.1, f.2.canonical), skipJsonGaps rest) := fun f hf rest hrest =>
    jsonField_fieldLine (hfields f (hmem f hf)) (hreads f (hmem f hf)) hrest
  have hcount : (sortFields fields).length ≤ room :=
    Nat.le_trans (Nat.le_of_eq (sortFields_perm fields).length_eq) hroom
  have hread := listed_blockRest (.inr rfl) level
    (fun f _ => begins_fieldLine (level + 1) f) hitem hcount rest
  have hdistinct : (names ((sortFields fields).map fun f => (f.1, f.2.canonical))).Nodup := by
    have hsame : names ((sortFields fields).map fun f => (f.1, f.2.canonical)) =
        names (sortFields fields) := List.map_map
    rw [hsame]
    exact ((sortFields_perm fields).map _).nodup_iff.mpr hnames
  rw [toList_prettyAt_record, List.cons_append, jsonValue, hread, canonical_record, Option.map_some]
  simp only [foldl_setField [] hdistinct, List.nil_append]

end Nested

/-- A datum is read from what is printed of it, if nothing follows that could belong to it. -/
theorem Printable.reads (h : Printable d) (level room : Nat)
    (hroom : (prettyAt level d).toList.length ≤ room) : Reads room level d := by
  -- inside a list or a record there is room for one less, and every line is shorter by as much
  induction h generalizing level room with
  | null =>
    intro rest _
    have hread : jsonValue room ('n' :: 'u' :: 'l' :: 'l' :: rest) = some (.null, rest) := by
      rw [jsonValue]
    rw [toList_prettyAt_null]
    exact hread
  | boolean value =>
    intro rest _
    have hfalse : jsonValue room ('f' :: 'a' :: 'l' :: 's' :: 'e' :: rest) =
        some (.boolean false, rest) := by rw [jsonValue]
    have htrue : jsonValue room ('t' :: 'r' :: 'u' :: 'e' :: rest) =
        some (.boolean true, rest) := by rw [jsonValue]
    rw [toList_prettyAt_boolean]
    cases value with
    | false => exact hfalse
    | true => exact htrue
  | @integer i hmin hmax =>
    intro rest hrest
    obtain ⟨c, cs, hcs, hc⟩ := head_toString i
    have hnumber := jsonNumber_toString hmin hmax hrest
    rw [hcs, List.cons_append] at hnumber
    rw [prettyAt, hcs, List.cons_append, jsonValue_number hc, hnumber]
    rfl
  | text value =>
    intro rest _
    have hstring := jsonString_jsonText value rest
    rw [toList_jsonText, List.cons_append] at hstring
    rw [prettyAt, toList_jsonText, List.cons_append, jsonValue, hstring]
    rfl
  | @list items hitems ih =>
    rw [toList_prettyAt_list] at hroom
    obtain ⟨room, rfl, hcount, hlines⟩ := exists_room hroom
    rw [List.length_map] at hcount
    refine fun rest _ => jsonValue_list hitems (fun d hd => ?_) hcount rest
    exact ih d hd (level + 1) room (hlines _ (List.mem_map_of_mem hd))
  | @record fields hnames hfields ih =>
    rw [toList_prettyAt_record] at hroom
    obtain ⟨room, rfl, hcount, hlines⟩ := exists_room hroom
    rw [List.length_map, (sortFields_perm fields).length_eq] at hcount
    refine fun rest _ => jsonValue_record hnames hfields (fun f hf => ?_) hcount rest
    have hline := hlines _ (List.mem_map_of_mem ((sortFields_perm fields).mem_iff.mpr hf))
    refine ih f hf (level + 1) room (Nat.le_trans ?_ hline)
    rw [fieldLine, String.toList_append, List.length_append]
    exact Nat.le_add_left _ _

/-- The printed text of a datum, on a line of its own, denotes the datum with sorted fields. -/
theorem Printable.ofJson?_pretty (h : Printable d) :
    ofJson? (d.pretty ++ "\n") = some d.canonical := by
  have htext : (d.pretty ++ "\n").toList = (prettyAt 0 d).toList ++ ['\n'] := by
    rw [String.toList_append]
    rfl
  have hroom : (prettyAt 0 d).toList.length ≤ ((prettyAt 0 d).toList ++ ['\n']).length := by
    rw [List.length_append]
    exact Nat.le_add_right _ _
  have hread := h.reads 0 _ hroom ['\n'] (follows_newline 0 [])
  rw [ofJson?, htext, spaced, (h.begins 0).skipJsonGaps, hread]
  rfl

end SectorForest.Datum
