import TboxProv.Json.Library
import TboxProv.Json.Text

/-!
# JSON text: values

A printer with the library's two layouts and a parser for it, for values without
floating-point numbers.  Parsing what was printed gives the value back, so the
pair is an instance of the library's documented behaviour.
-/

namespace TboxProv.JsonText

/-! ## Printing -/

/-- A line break in the indented layout; nothing in the compact one. -/
def newline (indent : ℤ) (depth : ℕ) : Bytes :=
  if 0 ≤ indent then 10 :: List.replicate (indent.toNat * depth) 32 else []

def colon (indent : ℤ) : Bytes := if 0 ≤ indent then [58, 32] else [58]

mutual

def printValue (indent : ℤ) (depth : ℕ) : Json → Bytes
  | .null => bytes "null"
  | .boolean b => if b then bytes "true" else bytes "false"
  | .integer z => printInt z
  | .float _ => []
  | .string s => printString s
  | .array [] => bytes "[]"
  | .array (x :: xs) =>
      91 :: (newline indent (depth + 1) ++ (printValue indent (depth + 1) x ++
        (printItems indent (depth + 1) xs ++ (newline indent depth ++ [93]))))
  | .object [] => bytes "{}"
  | .object ((k, v) :: fields) =>
      123 :: (newline indent (depth + 1) ++ (printString (bytes k) ++ (colon indent ++
        (printValue indent (depth + 1) v ++
          (printMembers indent (depth + 1) fields ++ (newline indent depth ++ [125]))))))

def printItems (indent : ℤ) (depth : ℕ) : List Json → Bytes
  | [] => []
  | x :: xs =>
      44 :: (newline indent depth ++ (printValue indent depth x ++ printItems indent depth xs))

def printMembers (indent : ℤ) (depth : ℕ) : List (String × Json) → Bytes
  | [] => []
  | (k, v) :: fields =>
      44 :: (newline indent depth ++ (printString (bytes k) ++ (colon indent ++
        (printValue indent depth v ++ printMembers indent depth fields))))

end

mutual

/-- No floating-point numbers, and strings in UTF-8. -/
def printable : Json → Bool
  | .float _ => false
  | .string s => decide (Utf8 s)
  | .array xs => printableItems xs
  | .object fields => printableMembers fields
  | _ => true

def printableItems : List Json → Bool
  | [] => true
  | x :: xs => printable x && printableItems xs

def printableMembers : List (String × Json) → Bool
  | [] => true
  | (_, v) :: fields => printable v && printableMembers fields

end

def dumpError : Exception := ⟨bytes "[json.exception.type_error.316] invalid UTF-8 byte"⟩

def dump (indent : ℤ) (j : Json) : Throws Bytes :=
  if printable j then .ok (printValue indent 0 j) else .error dumpError

/-! ## Parsing -/

def literal (word : Bytes) (j : Json) (s : Bytes) : Option (Json × Bytes) :=
  if word.isPrefixOf s then some (j, s.drop word.length) else none

def parseMember (value : Bytes → Option (Json × Bytes)) (s : Bytes) :
    Option ((String × Json) × Bytes) :=
  match skipWs s with
  | [] => none
  | c :: rest =>
      if c = 34 then
        (scanString rest).bind fun (key, rest) ↦
          (readKey key).bind fun k ↦
            match skipWs rest with
            | [] => none
            | d :: rest =>
                if d = 58 then (value rest).map fun (v, rest) ↦ ((k, v), rest) else none
      else none

mutual

def parseValue : ℕ → Bytes → Option (Json × Bytes)
  | 0, _ => none
  | fuel + 1, s =>
      match skipWs s with
      | [] => none
      | c :: rest =>
          if c = 34 then (scanString rest).map fun (str, rest) ↦ (.string str, rest)
          else if c = 91 then
            match skipWs rest with
            | [] => none
            | d :: rest =>
                if d = 93 then some (.array [], rest)
                else
                  (parseValue fuel (d :: rest)).bind fun (x, rest) ↦
                    (parseItems fuel rest).map fun (xs, rest) ↦ (.array (x :: xs), rest)
          else if c = 123 then
            match skipWs rest with
            | [] => none
            | d :: rest =>
                if d = 125 then some (.object [], rest)
                else
                  (parseMember (fun s ↦ parseValue fuel s) (d :: rest)).bind fun (m, rest) ↦
                    (parseMembers fuel rest).map fun (ms, rest) ↦
                      (Json.ofFields (m :: ms), rest)
          else if c = 110 then literal (bytes "ull") .null rest
          else if c = 116 then literal (bytes "rue") (.boolean true) rest
          else if c = 102 then literal (bytes "alse") (.boolean false) rest
          else scanInt (c :: rest)

def parseItems : ℕ → Bytes → Option (List Json × Bytes)
  | 0, _ => none
  | fuel + 1, s =>
      match skipWs s with
      | [] => none
      | c :: rest =>
          if c = 93 then some ([], rest)
          else if c = 44 then
            (parseValue fuel rest).bind fun (x, rest) ↦
              (parseItems fuel rest).map fun (xs, rest) ↦ (x :: xs, rest)
          else none

def parseMembers : ℕ → Bytes → Option (List (String × Json) × Bytes)
  | 0, _ => none
  | fuel + 1, s =>
      match skipWs s with
      | [] => none
      | c :: rest =>
          if c = 125 then some ([], rest)
          else if c = 44 then
            (parseMember (fun s ↦ parseValue fuel s) rest).bind fun (m, rest) ↦
              (parseMembers fuel rest).map fun (ms, rest) ↦ (m :: ms, rest)
          else none

end

def parseError : Exception := ⟨bytes "[json.exception.parse_error.101] parse error"⟩

def parse (s : Bytes) : Throws Json :=
  match parseValue (s.length + 1) s with
  | some (j, rest) => if skipWs rest = [] then .ok j else .error parseError
  | none => .error parseError

/-! ## White space and first bytes -/

theorem skipWs_append {ws : Bytes} (h : ∀ c ∈ ws, isWs c = true) (s : Bytes) :
    skipWs (ws ++ s) = skipWs s := List.dropWhile_append_of_pos h

theorem skipWs_cons {c : UInt8} (h : isWs c = false) (s : Bytes) : skipWs (c :: s) = c :: s :=
  List.dropWhile_cons_of_neg (by simp [h])

theorem isWs_of_mem_newline {indent : ℤ} {depth : ℕ} {c : UInt8} (h : c ∈ newline indent depth) :
    isWs c = true := by
  unfold newline at h
  split at h
  · rcases List.mem_cons.1 h with rfl | h
    · rfl
    · rw [List.eq_of_mem_replicate h]
      rfl
  · cases h

@[simp] theorem skipWs_newline (indent : ℤ) (depth : ℕ) (s : Bytes) :
    skipWs (newline indent depth ++ s) = skipWs s :=
  skipWs_append (fun _ hc ↦ isWs_of_mem_newline hc) s

@[simp] theorem parseValue_newline (fuel : ℕ) (indent : ℤ) (depth : ℕ) (s : Bytes) :
    parseValue fuel (newline indent depth ++ s) = parseValue fuel s := by
  cases fuel with
  | zero => rfl
  | succ fuel => rw [parseValue, parseValue, skipWs_newline]

theorem printValue_cons (indent : ℤ) (depth : ℕ) {j : Json} (h : j.Plain) :
    ∃ c cs, printValue indent depth j = c :: cs ∧ isWs c = false ∧ c ≠ 93 := by
  cases j with
  | null => exact ⟨110, bytes "ull", rfl, rfl, by decide⟩
  | boolean b =>
      cases b with
      | true => exact ⟨116, bytes "rue", rfl, rfl, by decide⟩
      | false => exact ⟨102, bytes "alse", rfl, rfl, by decide⟩
  | integer z =>
      have hdigit : ∀ c, isDigit c = true → isWs c = false ∧ c ≠ 93 := by
        intro c hc
        refine ⟨?_, ?_⟩
        · by_contra hws
          simp only [isWs, Bool.not_eq_false, Bool.or_eq_true, beq_iff_eq] at hws
          rcases hws with ((rfl | rfl) | rfl) | rfl <;> simp [isDigit] at hc
        · rintro rfl
          simp [isDigit] at hc
      obtain ⟨c, cs, hcs, hc⟩ := printInt_cons z
      refine ⟨c, cs, hcs, ?_⟩
      rcases hc with rfl | hc
      · exact ⟨rfl, by decide⟩
      · exact hdigit c hc
  | float q => exact h.elim
  | string s => exact ⟨34, _, rfl, rfl, by decide⟩
  | array xs =>
      cases xs with
      | nil => exact ⟨91, [93], rfl, rfl, by decide⟩
      | cons x xs => exact ⟨91, _, rfl, rfl, by decide⟩
  | object fields =>
      cases fields with
      | nil => exact ⟨123, [125], rfl, rfl, by decide⟩
      | cons m fields => exact ⟨123, _, rfl, rfl, by decide⟩

/-! ## One step of the parser -/

section Steps

variable {fuel : ℕ} {rest : Bytes}

theorem parseValue_literal {c : UInt8} {word : Bytes} {j : Json}
    (hc : isWs c = false) (hquote : c ≠ 34) (harray : c ≠ 91) (hobject : c ≠ 123)
    (hword : (if c = 110 then literal (bytes "ull") .null (word ++ rest)
      else if c = 116 then literal (bytes "rue") (.boolean true) (word ++ rest)
      else if c = 102 then literal (bytes "alse") (.boolean false) (word ++ rest)
      else scanInt (c :: (word ++ rest))) = some (j, rest)) :
    parseValue (fuel + 1) (c :: (word ++ rest)) = some (j, rest) := by
  simp only [parseValue, skipWs_cons hc, if_neg hquote, if_neg harray, if_neg hobject, hword]

theorem literal_append (word : Bytes) (j : Json) (rest : Bytes) :
    literal word j (word ++ rest) = some (j, rest) := by
  simp [literal]

theorem parseMember_of_value (value : Bytes → Option (Json × Bytes)) (indent : ℤ) (k : String)
    {s : Bytes} {v : Json} (hvalue : ∀ t, value (32 :: t) = value t)
    (h : value s = some (v, rest)) :
    parseMember value (printString (bytes k) ++ (colon indent ++ s)) = some ((k, v), rest) := by
  have hstring : scanString ((bytes k).flatMap escapeByte ++ 34 :: (colon indent ++ s)) =
      some (bytes k, colon indent ++ s) := scanString_printString (Utf8.bytes k) _
  have hvalue' : ∃ t, skipWs (colon indent ++ s) = 58 :: t ∧ value t = some (v, rest) := by
    unfold colon
    split
    · exact ⟨32 :: s, rfl, (hvalue s).trans h⟩
    · exact ⟨s, rfl, h⟩
  obtain ⟨t, hcolon, ht⟩ := hvalue'
  have hquote : skipWs (printString (bytes k) ++ (colon indent ++ s)) =
      34 :: ((bytes k).flatMap escapeByte ++ 34 :: (colon indent ++ s)) := by
    rw [printString, List.cons_append, skipWs_cons rfl, List.append_assoc]
    rfl
  simp only [parseMember, hquote, if_true, hstring, Option.bind_some, readKey_bytes, hcolon, ht,
    Option.map_some]

theorem parseValue_space (s : Bytes) : parseValue fuel (32 :: s) = parseValue fuel s := by
  cases fuel with
  | zero => rfl
  | succ fuel =>
      have hws : skipWs (32 :: s) = skipWs s := rfl
      rw [parseValue, parseValue, hws]

end Steps

theorem numberEnd_newline (indent : ℤ) (depth : ℕ) {c : UInt8} (rest : Bytes)
    (h : isDigit c = false ∧ c ≠ 46 ∧ c ≠ 69 ∧ c ≠ 101) :
    NumberEnd (newline indent depth ++ c :: rest) := by
  intro d rest' hd
  unfold newline at hd
  split at hd
  · rw [List.cons_append, List.cons.injEq] at hd
    obtain ⟨rfl, -⟩ := hd
    decide
  · rw [List.nil_append, List.cons.injEq] at hd
    obtain ⟨rfl, -⟩ := hd
    exact h

theorem numberEnd_cons {c : UInt8} (rest : Bytes)
    (h : isDigit c = false ∧ c ≠ 46 ∧ c ≠ 69 ∧ c ≠ 101) : NumberEnd (c :: rest) := by
  intro d rest' hd
  rw [List.cons.injEq] at hd
  obtain ⟨rfl, -⟩ := hd
  exact h

theorem numberEnd_items (indent : ℤ) (depth depth' : ℕ) (xs : List Json) (rest : Bytes) :
    NumberEnd (printItems indent depth xs ++ (newline indent depth' ++ 93 :: rest)) := by
  cases xs with
  | nil => exact numberEnd_newline _ _ _ (by decide)
  | cons x xs => exact numberEnd_cons _ (by decide)

theorem numberEnd_members (indent : ℤ) (depth depth' : ℕ) (fields : List (String × Json))
    (rest : Bytes) :
    NumberEnd (printMembers indent depth fields ++ (newline indent depth' ++ 125 :: rest)) := by
  cases fields with
  | nil => exact numberEnd_newline _ _ _ (by decide)
  | cons m fields => exact numberEnd_cons _ (by decide)

/-! ## The round trip -/

theorem parseValue_array {fuel : ℕ} {s r rest : Bytes} {x : Json} {xs : List Json}
    (hs : ∃ c cs, s = c :: cs ∧ isWs c = false ∧ c ≠ 93) (indent : ℤ) (depth : ℕ)
    (hx : parseValue fuel s = some (x, r)) (hxs : parseItems fuel r = some (xs, rest)) :
    parseValue (fuel + 1) (91 :: (newline indent depth ++ s)) = some (.array (x :: xs), rest) := by
  obtain ⟨c, cs, rfl, hws, hc⟩ := hs
  have hbracket : skipWs (91 :: (newline indent depth ++ c :: cs)) =
      91 :: (newline indent depth ++ c :: cs) := skipWs_cons rfl _
  simp only [parseValue, hbracket, show (91 : UInt8) ≠ 34 by decide, if_false, if_true,
    skipWs_newline, skipWs_cons hws, hc, hx, hxs, Option.bind_some, Option.map_some]

theorem parseItems_cons {fuel : ℕ} {s r rest : Bytes} {x : Json} {xs : List Json} (indent : ℤ)
    (depth : ℕ) (hx : parseValue fuel s = some (x, r))
    (hxs : parseItems fuel r = some (xs, rest)) :
    parseItems (fuel + 1) (44 :: (newline indent depth ++ s)) = some (x :: xs, rest) := by
  have hcomma : skipWs (44 :: (newline indent depth ++ s)) = 44 :: (newline indent depth ++ s) :=
    skipWs_cons rfl _
  simp only [parseItems, hcomma, show (44 : UInt8) ≠ 93 by decide, if_false, if_true,
    parseValue_newline, hx, hxs, Option.bind_some, Option.map_some]

theorem parseMember_newline (value : Bytes → Option (Json × Bytes)) (indent : ℤ) (depth : ℕ)
    (s : Bytes) : parseMember value (newline indent depth ++ s) = parseMember value s := by
  rw [parseMember, parseMember, skipWs_newline]

theorem parseValue_object {fuel : ℕ} {s r rest : Bytes} {m : String × Json}
    {fields : List (String × Json)} (indent : ℤ) (depth : ℕ)
    (hm : parseMember (fun s ↦ parseValue fuel s) (34 :: s) = some (m, r))
    (hfields : parseMembers fuel r = some (fields, rest))
    (hsorted : ((m :: fields).map Prod.fst).Pairwise (· < ·)) :
    parseValue (fuel + 1) (123 :: (newline indent depth ++ 34 :: s)) =
      some (.object (m :: fields), rest) := by
  have hbrace : skipWs (123 :: (newline indent depth ++ 34 :: s)) =
      123 :: (newline indent depth ++ 34 :: s) := skipWs_cons rfl _
  have hquote : skipWs (34 :: s) = 34 :: s := skipWs_cons rfl _
  simp only [parseValue, hbrace, show (123 : UInt8) ≠ 34 by decide,
    show (123 : UInt8) ≠ 91 by decide, show (34 : UInt8) ≠ 125 by decide, if_false, if_true,
    skipWs_newline, hquote, hm, hfields, Option.bind_some, Option.map_some,
    Json.ofFields_of_sorted hsorted]

theorem parseMembers_cons {fuel : ℕ} {s r rest : Bytes} {m : String × Json}
    {fields : List (String × Json)} (indent : ℤ) (depth : ℕ)
    (hm : parseMember (fun s ↦ parseValue fuel s) s = some (m, r))
    (hfields : parseMembers fuel r = some (fields, rest)) :
    parseMembers (fuel + 1) (44 :: (newline indent depth ++ s)) = some (m :: fields, rest) := by
  have hcomma : skipWs (44 :: (newline indent depth ++ s)) = 44 :: (newline indent depth ++ s) :=
    skipWs_cons rfl _
  simp only [parseMembers, hcomma, show (44 : UInt8) ≠ 125 by decide, if_false, if_true,
    parseMember_newline, hm, hfields, Option.bind_some, Option.map_some]

theorem parseItems_nil {fuel : ℕ} (indent : ℤ) (depth : ℕ) (rest : Bytes) :
    parseItems (fuel + 1) (newline indent depth ++ 93 :: rest) = some ([], rest) := by
  have hbracket : skipWs (93 :: rest) = 93 :: rest := skipWs_cons rfl _
  simp only [parseItems, skipWs_newline, hbracket, if_true]

theorem parseMembers_nil {fuel : ℕ} (indent : ℤ) (depth : ℕ) (rest : Bytes) :
    parseMembers (fuel + 1) (newline indent depth ++ 125 :: rest) = some ([], rest) := by
  have hbrace : skipWs (125 :: rest) = 125 :: rest := skipWs_cons rfl _
  simp only [parseMembers, skipWs_newline, hbrace, if_true]

mutual

/-- Parsing a printed value; the fuel only has to reach its length. -/
theorem parseValue_printValue (indent : ℤ) : ∀ (j : Json) (depth fuel : ℕ) (rest : Bytes),
    j.Plain → j.Utf8 → NumberEnd rest → (printValue indent depth j).length ≤ fuel →
      parseValue fuel (printValue indent depth j ++ rest) = some (j, rest)
  | j, depth, 0, rest, hplain, _, _, hfuel => by
      obtain ⟨c, cs, hcs, -, -⟩ := printValue_cons indent depth hplain
      simp [hcs] at hfuel
  | .null, depth, fuel + 1, rest, _, _, _, _ => by
      exact parseValue_literal rfl (by decide) (by decide) (by decide)
        (literal_append (bytes "ull") .null rest)
  | .boolean true, depth, fuel + 1, rest, _, _, _, _ => by
      exact parseValue_literal rfl (by decide) (by decide) (by decide)
        (literal_append (bytes "rue") (.boolean true) rest)
  | .boolean false, depth, fuel + 1, rest, _, _, _, _ => by
      exact parseValue_literal rfl (by decide) (by decide) (by decide)
        (literal_append (bytes "alse") (.boolean false) rest)
  | .integer z, depth, fuel + 1, rest, hplain, _, hend, _ => by
      have hscan := scanInt_printInt hplain.1 hplain.2 hend
      obtain ⟨c, cs, hcs, hc⟩ := printInt_cons z
      rw [printValue]
      rw [hcs] at hscan ⊢
      have hne : ∀ b : UInt8, b ≠ 45 → isDigit b = false → c ≠ b := by
        rintro b hb hdigit rfl
        rcases hc with hc | hc
        · exact hb hc
        · rw [hc] at hdigit
          cases hdigit
      have hws : isWs c = false := by
        simp [isWs, hne 32 (by decide) rfl, hne 9 (by decide) rfl, hne 10 (by decide) rfl,
          hne 13 (by decide) rfl]
      refine parseValue_literal hws (hne 34 (by decide) rfl) (hne 91 (by decide) rfl)
        (hne 123 (by decide) rfl) ?_
      rw [if_neg (hne 110 (by decide) rfl), if_neg (hne 116 (by decide) rfl),
        if_neg (hne 102 (by decide) rfl)]
      exact hscan
  | .float q, _, fuel + 1, _, hplain, _, _, _ => hplain.elim
  | .string s, depth, fuel + 1, rest, _, hutf8, _, _ => by
      have hscan := scanString_printString hutf8 rest
      have hquote : skipWs (34 :: (s.flatMap escapeByte ++ 34 :: rest)) =
          34 :: (s.flatMap escapeByte ++ 34 :: rest) := skipWs_cons rfl _
      simp only [printValue, printString, List.cons_append, List.append_assoc, List.nil_append,
        parseValue, hquote, if_true, hscan, Option.map_some]
  | .array [], depth, fuel + 1, rest, _, _, _, _ => by
      have hbracket : skipWs (91 :: 93 :: rest) = 91 :: 93 :: rest := skipWs_cons rfl _
      have hclose : skipWs (93 :: rest) = 93 :: rest := skipWs_cons rfl _
      change parseValue (fuel + 1) (91 :: 93 :: rest) = _
      simp only [parseValue, hbracket, hclose, show (91 : UInt8) ≠ 34 by decide, if_false, if_true]
  | .array (x :: xs), depth, fuel + 1, rest, hplain, hutf8, _, hfuel => by
      simp only [printValue, List.length_cons, List.length_append] at hfuel
      have hx := parseValue_printValue indent x (depth + 1) fuel
        (printItems indent (depth + 1) xs ++ (newline indent depth ++ 93 :: rest)) hplain.1
        hutf8.1 (numberEnd_items _ _ _ _ _) (by omega)
      have hxs := parseItems_printItems indent xs (depth + 1) depth fuel rest hplain.2 hutf8.2
        (by omega)
      obtain ⟨c, cs, hcs, hc⟩ := printValue_cons indent (depth + 1) hplain.1
      have hstart : ∃ c' cs', printValue indent (depth + 1) x ++
          (printItems indent (depth + 1) xs ++ (newline indent depth ++ 93 :: rest)) =
            c' :: cs' ∧ isWs c' = false ∧ c' ≠ 93 := ⟨c, _, by rw [hcs]; rfl, hc⟩
      simpa [printValue] using parseValue_array hstart indent (depth + 1) hx hxs
  | .object [], depth, fuel + 1, rest, _, _, _, _ => by
      have hbrace : skipWs (123 :: 125 :: rest) = 123 :: 125 :: rest := skipWs_cons rfl _
      have hclose : skipWs (125 :: rest) = 125 :: rest := skipWs_cons rfl _
      change parseValue (fuel + 1) (123 :: 125 :: rest) = _
      simp only [parseValue, hbrace, hclose, show (123 : UInt8) ≠ 34 by decide,
        show (123 : UInt8) ≠ 91 by decide, if_false, if_true]
  | .object ((k, v) :: fields), depth, fuel + 1, rest, hplain, hutf8, _, hfuel => by
      simp only [printValue, List.length_cons, List.length_append] at hfuel
      have hv := parseValue_printValue indent v (depth + 1) fuel
        (printMembers indent (depth + 1) fields ++ (newline indent depth ++ 125 :: rest))
        hplain.2.1 hutf8.1 (numberEnd_members _ _ _ _ _) (by omega)
      have hfields := parseMembers_printMembers indent fields (depth + 1) depth fuel rest
        hplain.2.2 hutf8.2 (by omega)
      have hm := parseMember_of_value (fun s ↦ parseValue fuel s) indent k
        (fun t ↦ parseValue_space t) hv
      have hobject := parseValue_object indent (depth + 1) hm hfields hplain.1
      simpa [printValue, printString] using hobject

theorem parseItems_printItems (indent : ℤ) : ∀ (xs : List Json) (depth depth' fuel : ℕ)
    (rest : Bytes), Json.PlainList xs → Json.Utf8List xs →
      (printItems indent depth xs).length + 1 ≤ fuel →
        parseItems fuel (printItems indent depth xs ++ (newline indent depth' ++ 93 :: rest)) =
          some (xs, rest)
  | _, _, _, 0, _, _, _, hfuel => by omega
  | [], _, _, fuel + 1, rest, _, _, _ => parseItems_nil _ _ rest
  | x :: xs, depth, depth', fuel + 1, rest, hplain, hutf8, hfuel => by
      simp only [printItems, List.length_cons, List.length_append] at hfuel
      have hx := parseValue_printValue indent x depth fuel
        (printItems indent depth xs ++ (newline indent depth' ++ 93 :: rest)) hplain.1 hutf8.1
        (numberEnd_items _ _ _ _ _) (by omega)
      have hxs := parseItems_printItems indent xs depth depth' fuel rest hplain.2 hutf8.2
        (by omega)
      simpa [printItems] using parseItems_cons indent depth hx hxs

theorem parseMembers_printMembers (indent : ℤ) : ∀ (fields : List (String × Json))
    (depth depth' fuel : ℕ) (rest : Bytes), Json.PlainFields fields → Json.Utf8Fields fields →
      (printMembers indent depth fields).length + 1 ≤ fuel →
        parseMembers fuel
            (printMembers indent depth fields ++ (newline indent depth' ++ 125 :: rest)) =
          some (fields, rest)
  | _, _, _, 0, _, _, _, hfuel => by omega
  | [], _, _, fuel + 1, rest, _, _, _ => parseMembers_nil _ _ rest
  | (k, v) :: fields, depth, depth', fuel + 1, rest, hplain, hutf8, hfuel => by
      simp only [printMembers, List.length_cons, List.length_append] at hfuel
      have hv := parseValue_printValue indent v depth fuel
        (printMembers indent depth fields ++ (newline indent depth' ++ 125 :: rest)) hplain.1
        hutf8.1 (numberEnd_members _ _ _ _ _) (by omega)
      have hfields := parseMembers_printMembers indent fields depth depth' fuel rest hplain.2
        hutf8.2 (by omega)
      have hm := parseMember_of_value (fun s ↦ parseValue fuel s) indent k
        (fun t ↦ parseValue_space t) hv
      simpa [printMembers] using parseMembers_cons indent depth hm hfields

end

/-! ## What can be printed -/

mutual

theorem utf8_of_printable : ∀ j : Json, printable j = true → j.Utf8
  | .null, _ | .boolean _, _ | .integer _, _ | .float _, _ => trivial
  | .string s, h => by
      rw [printable, decide_eq_true_eq] at h
      exact h
  | .array xs, h => utf8List_of_printable xs h
  | .object fields, h => utf8Fields_of_printable fields h

theorem utf8List_of_printable : ∀ xs : List Json, printableItems xs = true → Json.Utf8List xs
  | [], _ => trivial
  | x :: xs, h => by
      rw [printableItems, Bool.and_eq_true] at h
      exact ⟨utf8_of_printable x h.1, utf8List_of_printable xs h.2⟩

theorem utf8Fields_of_printable : ∀ fields : List (String × Json),
    printableMembers fields = true → Json.Utf8Fields fields
  | [], _ => trivial
  | (_, v) :: fields, h => by
      rw [printableMembers, Bool.and_eq_true] at h
      exact ⟨utf8_of_printable v h.1, utf8Fields_of_printable fields h.2⟩

end

mutual

theorem printable_of_plain : ∀ j : Json, j.Plain → j.Utf8 → printable j = true
  | .null, _, _ | .boolean _, _, _ | .integer _, _, _ => rfl
  | .float _, h, _ => h.elim
  | .string s, _, h => by
      rw [printable, decide_eq_true_eq]
      exact h
  | .array xs, hplain, hutf8 => printableItems_of_plain xs hplain hutf8
  | .object fields, hplain, hutf8 => printableMembers_of_plain fields hplain.2 hutf8

theorem printableItems_of_plain : ∀ xs : List Json,
    Json.PlainList xs → Json.Utf8List xs → printableItems xs = true
  | [], _, _ => rfl
  | x :: xs, hplain, hutf8 => by
      rw [printableItems, Bool.and_eq_true]
      exact ⟨printable_of_plain x hplain.1 hutf8.1, printableItems_of_plain xs hplain.2 hutf8.2⟩

theorem printableMembers_of_plain : ∀ fields : List (String × Json),
    Json.PlainFields fields → Json.Utf8Fields fields → printableMembers fields = true
  | [], _, _ => rfl
  | (_, v) :: fields, hplain, hutf8 => by
      rw [printableMembers, Bool.and_eq_true]
      exact ⟨printable_of_plain v hplain.1 hutf8.1,
        printableMembers_of_plain fields hplain.2 hutf8.2⟩

end

theorem utf8_newline (indent : ℤ) (depth : ℕ) : Utf8 (newline indent depth) := by
  apply Utf8.of_ascii
  intro c hc
  unfold newline at hc
  split at hc
  · rcases List.mem_cons.1 hc with rfl | hc
    · decide
    · rw [List.eq_of_mem_replicate hc]
      decide
  · cases hc

theorem utf8_colon (indent : ℤ) : Utf8 (colon indent) := by
  unfold colon
  split
  · exact Utf8.bytes ": "
  · exact Utf8.bytes ":"

mutual

theorem utf8_printValue (indent : ℤ) : ∀ (j : Json) (depth : ℕ), j.Utf8 →
    Utf8 (printValue indent depth j)
  | .null, _, _ => Utf8.bytes "null"
  | .boolean true, _, _ => Utf8.bytes "true"
  | .boolean false, _, _ => Utf8.bytes "false"
  | .integer z, _, _ => utf8_printInt z
  | .float _, _, _ => Utf8.nil
  | .string _, _, h => utf8_printString h
  | .array [], _, _ => Utf8.bytes "[]"
  | .array (x :: xs), depth, h => by
      have hx := utf8_printValue indent x (depth + 1) h.1
      have hxs := utf8_printItems indent xs (depth + 1) h.2
      exact (Utf8.bytes "[").append ((utf8_newline _ _).append (hx.append (hxs.append
        ((utf8_newline _ _).append (Utf8.bytes "]")))))
  | .object [], _, _ => Utf8.bytes "{}"
  | .object ((k, v) :: fields), depth, h => by
      have hkey := utf8_printString (Utf8.bytes k)
      have hv := utf8_printValue indent v (depth + 1) h.1
      have hfields := utf8_printMembers indent fields (depth + 1) h.2
      exact (Utf8.bytes "\x7b").append ((utf8_newline _ _).append
        (hkey.append ((utf8_colon _).append (hv.append (hfields.append
          ((utf8_newline _ _).append (Utf8.bytes "\x7d")))))))

theorem utf8_printItems (indent : ℤ) : ∀ (xs : List Json) (depth : ℕ), Json.Utf8List xs →
    Utf8 (printItems indent depth xs)
  | [], _, _ => Utf8.nil
  | x :: xs, depth, h => by
      have hx := utf8_printValue indent x depth h.1
      have hxs := utf8_printItems indent xs depth h.2
      exact (Utf8.bytes ",").append ((utf8_newline _ _).append (hx.append hxs))

theorem utf8_printMembers (indent : ℤ) : ∀ (fields : List (String × Json)) (depth : ℕ),
    Json.Utf8Fields fields → Utf8 (printMembers indent depth fields)
  | [], _, _ => Utf8.nil
  | (k, v) :: fields, depth, h => by
      have hkey := utf8_printString (Utf8.bytes k)
      have hv := utf8_printValue indent v depth h.1
      have hfields := utf8_printMembers indent fields depth h.2
      exact (Utf8.bytes ",").append ((utf8_newline _ _).append (hkey.append
        ((utf8_colon _).append (hv.append hfields))))

end

/-! ## The library instance -/

theorem parse_dump (indent : ℤ) (j : Json) (hplain : j.Plain) (hutf8 : j.Utf8) :
    ∃ s, dump indent j = .ok s ∧ parse s = .ok j := by
  refine ⟨printValue indent 0 j, if_pos (printable_of_plain j hplain hutf8), ?_⟩
  have hparse := parseValue_printValue indent j 0 ((printValue indent 0 j).length + 1) [] hplain
    hutf8 NumberEnd.nil (by omega)
  rw [List.append_nil] at hparse
  simp [parse, hparse, skipWs]

/-- The library on values without floating-point numbers. -/
def textLib : JsonLib where
  parse := parse
  dump := dump
  outOfRange := fun _ ↦ 0

theorem textLib_lawful : textLib.Lawful where
  parse_dump := parse_dump
  dump_invalid := by
    intro indent j hutf8
    have hno : ¬ printable j = true := fun h ↦ hutf8 (utf8_of_printable j h)
    exact ⟨dumpError, if_neg hno⟩
  dump_utf8 := by
    intro indent j s h
    change dump indent j = .ok s at h
    unfold dump at h
    split at h
    case isTrue hprintable =>
      cases h
      exact utf8_printValue indent j 0 (utf8_of_printable j hprintable)
    case isFalse => cases h

theorem textLib_reportsInUtf8 : textLib.ReportsInUtf8 := by
  intro indent j e h
  change dump indent j = .error e at h
  unfold dump at h
  split at h
  · cases h
  · cases h
    exact Utf8.bytes _

end TboxProv.JsonText
