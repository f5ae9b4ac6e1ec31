import Concord.Python.Loads

/-!
# What is printed is read back

`Prints v t` says that the text `t` is the value `v`, with blanks where JSON allows them. A
printer has to show that it makes such texts, and `loads_prints` reads them all, whatever
the blanks are.

`loads_pretty` and `loads_dumps`: the printers with an indent and without blanks. Numbers are
integers, and a dict has each key once (`Readable`).
-/

namespace Concord.Python.Json

/-! ## Values -/

mutual

/-- The values that `loads` can give back: integers that it takes, and dicts with each key
once. -/
def Readable : Json → Prop
  | .null | .bool _ | .str _ => True
  | .num n => ∃ i, n = .ofInt i ∧ (digits i).length ≤ 4300
  | .arr vs => ReadableItems vs
  | .obj fs => (fs.map Prod.fst).Nodup ∧ ReadableFields fs

def ReadableItems : List Json → Prop
  | [] => True
  | v :: vs => Readable v ∧ ReadableItems vs

def ReadableFields : List (Text × Json) → Prop
  | [] => True
  | (_, v) :: fs => Readable v ∧ ReadableFields fs

end

/-! ## Blanks between the tokens -/

def Blank (w : Text) : Prop := ∀ c ∈ w, isWs c = true

theorem blank_nil : Blank [] := List.forall_mem_nil _

theorem blank_space : Blank [' '] := by
  intro c hc
  rw [List.mem_singleton.mp hc]
  rfl

theorem blank_newline (k : Nat) : Blank (newline k) := by
  intro c hc
  rcases List.mem_cons.mp hc with rfl | hc
  · rfl
  · rw [List.eq_of_mem_replicate hc]
    rfl

mutual

/-- The text is the value, with blanks where they may be. -/
inductive Prints : Json → Text → Prop
  | null : Prints .null ['n', 'u', 'l', 'l']
  | bool {b : Bool} : Prints (.bool b) (dumps (.bool b))
  | num {i : Int} : (digits i).length ≤ 4300 → Prints (.num (.ofInt i)) (Number.ofInt i).text
  | str {t : Text} : Prints (.str t) (dumpsStr t)
  | emptyArr : Prints (.arr []) ['[', ']']
  | arr {v : Json} {vs : List Json} {w t u : Text} : Blank w → Prints v t → PrintsItems vs u →
      Prints (.arr (v :: vs)) ('[' :: (w ++ (t ++ u)))
  | emptyObj : Prints (.obj []) ['{', '}']
  | obj {f : Text × Json} {fs : List (Text × Json)} {w t u : Text} :
      ((f :: fs).map Prod.fst).Nodup → Blank w → PrintsField f t → PrintsFields fs u →
      Prints (.obj (f :: fs)) ('{' :: (w ++ (t ++ u)))

inductive PrintsItems : List Json → Text → Prop
  | nil {w : Text} : Blank w → PrintsItems [] (w ++ [']'])
  | cons {v : Json} {vs : List Json} {w t u : Text} : Blank w → Prints v t → PrintsItems vs u →
      PrintsItems (v :: vs) (',' :: (w ++ (t ++ u)))

inductive PrintsFields : List (Text × Json) → Text → Prop
  | nil {w : Text} : Blank w → PrintsFields [] (w ++ ['}'])
  | cons {f : Text × Json} {fs : List (Text × Json)} {w t u : Text} : Blank w →
      PrintsField f t → PrintsFields fs u → PrintsFields (f :: fs) (',' :: (w ++ (t ++ u)))

inductive PrintsField : Text × Json → Text → Prop
  | mk {key : Text} {v : Json} {w t : Text} : Blank w → Prints v t →
      PrintsField (key, v) (dumpsStr key ++ ':' :: (w ++ t))

end

theorem skipWs_cons {c : Char} (hc : isWs c = false) (s : Text) : skipWs (c :: s) = c :: s :=
  List.dropWhile_cons_of_neg (by simp [hc])

theorem skipWs_blank {w : Text} (h : Blank w) (s : Text) : skipWs (w ++ s) = skipWs s :=
  List.dropWhile_append_of_pos h

theorem isWs_numberStart {c : Char} (h : isNumberStart c = true) :
    isWs c = false ∧ c ≠ ']' ∧ c ≠ '}' := by
  refine ⟨?_, ?_, ?_⟩
  · by_contra hws
    simp only [isWs, Bool.not_eq_false, decide_eq_true_eq] at hws
    rcases hws with rfl | rfl | rfl | rfl <;> exact absurd h (by decide)
  · rintro rfl
    exact absurd h (by decide)
  · rintro rfl
    exact absurd h (by decide)

theorem dumps_bool (b : Bool) :
    ∃ c r, dumps (.bool b) = c :: r ∧ isWs c = false ∧ c ≠ ']' ∧ c ≠ '}' := by
  cases b <;> exact ⟨_, _, by rw [dumps], by decide⟩

theorem Prints.head {v : Json} {t : Text} (h : Prints v t) :
    ∃ c r, t = c :: r ∧ isWs c = false ∧ c ≠ ']' ∧ c ≠ '}' := by
  cases h with
  | bool => exact dumps_bool _
  | num => exact ⟨_, _, rfl, isWs_numberStart (Number.ofInt _).isStart⟩
  | _ => exact ⟨_, _, rfl, by decide⟩

theorem PrintsField.head {f : Text × Json} {t : Text} (h : PrintsField f t) :
    ∃ r, t = '"' :: r := by
  cases h
  exact ⟨_, rfl⟩

theorem Prints.skipWs {v : Json} {t : Text} (h : Prints v t) {w : Text} (hw : Blank w) (s : Text) :
    skipWs (w ++ (t ++ s)) = t ++ s := by
  obtain ⟨c, r, rfl, hc, -⟩ := h.head
  rw [skipWs_blank hw]
  exact skipWs_cons hc _

theorem PrintsField.skipWs {f : Text × Json} {t : Text} (h : PrintsField f t) {w : Text}
    (hw : Blank w) (s : Text) : Json.skipWs (w ++ (t ++ s)) = t ++ s := by
  cases h
  rw [skipWs_blank hw]
  exact skipWs_cons (by decide) _

theorem follows_blank {w s : Text} (hw : Blank w) (hs : Follows s) : Follows (w ++ s) := by
  cases w with
  | nil => exact hs
  | cons c w =>
    have hc : isWs c = true := hw c List.mem_cons_self
    refine follows_cons ?_ _
    simp only [isWs, decide_eq_true_eq] at hc
    rcases hc with rfl | rfl | rfl | rfl <;> decide

theorem PrintsItems.follows {vs : List Json} {t : Text} (h : PrintsItems vs t) (s : Text) :
    Follows (t ++ s) := by
  cases h with
  | nil hw =>
    rw [List.append_assoc]
    exact follows_blank hw (follows_cons (by decide) _)
  | cons => exact follows_cons (by decide) _

theorem PrintsFields.follows {fs : List (Text × Json)} {t : Text} (h : PrintsFields fs t)
    (s : Text) : Follows (t ++ s) := by
  cases h with
  | nil hw =>
    rw [List.append_assoc]
    exact follows_blank hw (follows_cons (by decide) _)
  | cons => exact follows_cons (by decide) _

section Steps

variable {value : Text → Option (Json × Text)} {n : Nat} {s t u w : Text}

theorem scanItems_close (h : skipWs s = ']' :: t) : scanItems value (n + 1) s = some ([], t) := by
  rw [scanItems, h]
  rfl

theorem scanItems_comma {v : Json} {vs : List Json} (h : skipWs s = ',' :: t)
    (hv : value (skipWs t) = some (v, u)) (hvs : scanItems value n u = some (vs, w)) :
    scanItems value (n + 1) s = some (v :: vs, w) := by
  rw [scanItems, h]
  show (value (skipWs t)).bind _ = _
  rw [hv, Option.bind_some]
  show (scanItems value n u).bind _ = _
  rw [hvs]
  rfl

theorem scanFields_close (h : skipWs s = '}' :: t) :
    scanFields value (n + 1) s = some ([], t) := by
  rw [scanFields, h]
  rfl

theorem scanFields_comma {f : Text × Json} {fs : List (Text × Json)} (h : skipWs s = ',' :: t)
    (hf : scanField value (skipWs t) = some (f, u)) (hfs : scanFields value n u = some (fs, w)) :
    scanFields value (n + 1) s = some (f :: fs, w) := by
  rw [scanFields, h]
  show (scanField value (skipWs t)).bind _ = _
  rw [hf, Option.bind_some]
  show (scanFields value n u).bind _ = _
  rw [hfs]
  rfl

theorem scanField_colon {key : Text} {v : Json}
    (hkey : scanString (s.length + 1) s = some (key, t)) (h : skipWs t = ':' :: u)
    (hv : value (skipWs u) = some (v, w)) :
    scanField value ('"' :: s) = some ((key, v), w) := by
  rw [scanField, hkey, Option.bind_eq_bind, Option.bind_some]
  dsimp only
  rw [h]
  show (value (skipWs u)).bind _ = _
  rw [hv]
  rfl

end Steps

mutual

/-- **A printed value** is read back off the front of a text. -/
theorem scanValue_prints (float : Text → Number) : ∀ {v : Json} {t : Text}, Prints v t →
    ∀ (n : Nat) {s : Text}, Follows s → t.length < n → scanValue float n (t ++ s) = some (v, s)
  | _, _, _, 0, _, _, hn => absurd hn (Nat.not_lt_zero _)
  | _, _, .null, n + 1, s, _, _ => rfl
  | _, _, @Prints.bool b, n + 1, s, _, _ => by cases b <;> rw [dumps] <;> rfl
  | _, _, .num hi, n + 1, s, hs, _ => scanValue_ofInt float n _ hi hs
  | _, _, .str, n + 1, s, _, _ => by
    rw [dumpsStr, List.cons_append, List.append_assoc, List.singleton_append, scanValue,
      scanString_literal]
    rfl
  | _, _, .emptyArr, n + 1, s, _, _ => rfl
  | _, _, @Prints.arr v vs w t u hw hv hvs, n + 1, s, hs, hn => by
    rw [List.length_cons, List.length_append, List.length_append] at hn
    have hfirst := scanValue_prints float hv n (hvs.follows s) (by omega)
    have hrest := scanItems_prints float hvs n n s (by omega) (by omega)
    obtain ⟨c, r, hc, -, hne, -⟩ := hv.head
    rw [List.cons_append, List.append_assoc, List.append_assoc, scanValue, hv.skipWs hw]
    split
    · rename_i heq
      rw [hc] at heq
      exact absurd (List.cons.inj heq).1 hne
    · rw [hfirst, Option.bind_eq_bind, Option.bind_some]
      dsimp only
      rw [hrest]
      rfl
  | _, _, .emptyObj, n + 1, s, _, _ => rfl
  | _, _, @Prints.obj f fs w t u hkeys hw hf hfs, n + 1, s, hs, hn => by
    rw [List.length_cons, List.length_append, List.length_append] at hn
    have hfirst := scanField_prints float hf n (hfs.follows s) (by omega)
    have hrest := scanFields_prints float hfs n n s (by omega) (by omega)
    obtain ⟨r, hr⟩ := hf.head
    rw [List.cons_append, List.append_assoc, List.append_assoc, scanValue, hf.skipWs hw]
    split
    · rename_i heq
      rw [hr] at heq
      exact absurd (List.cons.inj heq).1 (by decide)
    · rw [hfirst, Option.bind_eq_bind, Option.bind_some]
      dsimp only
      rw [hrest]
      exact congrArg (fun items => some (obj items, s)) (Dict.items_ofPairs hkeys)

theorem scanItems_prints (float : Text → Number) : ∀ {vs : List Json} {u : Text},
    PrintsItems vs u → ∀ (m n : Nat) (s : Text), u.length ≤ m → u.length ≤ n →
      scanItems (scanValue float m) n (u ++ s) = some (vs, s)
  | _, _, .nil hw, m, 0, s, _, hn => by simp at hn
  | _, _, .nil hw, m, n + 1, s, _, _ => by
    rw [List.append_assoc]
    exact scanItems_close ((skipWs_blank hw _).trans (skipWs_cons (by decide) s))
  | _, _, .cons _ _ _, m, 0, s, _, hn => by simp at hn
  | _, _, @PrintsItems.cons v vs w t u hw hv hvs, m, n + 1, s, hm, hn => by
    rw [List.length_cons, List.length_append, List.length_append] at hm hn
    have hfirst := scanValue_prints float hv m (hvs.follows s) (by omega)
    have hrest := scanItems_prints float hvs m n s (by omega) (by omega)
    rw [← hv.skipWs hw] at hfirst
    rw [List.cons_append, List.append_assoc, List.append_assoc]
    exact scanItems_comma (skipWs_cons (by decide) _) hfirst hrest

theorem scanFields_prints (float : Text → Number) : ∀ {fs : List (Text × Json)} {u : Text},
    PrintsFields fs u → ∀ (m n : Nat) (s : Text), u.length ≤ m → u.length ≤ n →
      scanFields (scanValue float m) n (u ++ s) = some (fs, s)
  | _, _, .nil hw, m, 0, s, _, hn => by simp at hn
  | _, _, .nil hw, m, n + 1, s, _, _ => by
    rw [List.append_assoc]
    exact scanFields_close ((skipWs_blank hw _).trans (skipWs_cons (by decide) s))
  | _, _, .cons _ _ _, m, 0, s, _, hn => by simp at hn
  | _, _, @PrintsFields.cons f fs w t u hw hf hfs, m, n + 1, s, hm, hn => by
    rw [List.length_cons, List.length_append, List.length_append] at hm hn
    have hfirst := scanField_prints float hf m (hfs.follows s) (by omega)
    have hrest := scanFields_prints float hfs m n s (by omega) (by omega)
    rw [← hf.skipWs hw] at hfirst
    rw [List.cons_append, List.append_assoc, List.append_assoc]
    exact scanFields_comma (skipWs_cons (by decide) _) hfirst hrest

theorem scanField_prints (float : Text → Number) : ∀ {f : Text × Json} {t : Text},
    PrintsField f t → ∀ (m : Nat) {s : Text}, Follows s → t.length ≤ m →
      scanField (scanValue float m) (t ++ s) = some (f, s)
  | _, _, @PrintsField.mk key v w t hw hv, m, s, hs, hm => by
    rw [List.length_append, List.length_cons, List.length_append] at hm
    have hvalue := scanValue_prints float hv m hs (by omega)
    rw [← hv.skipWs hw] at hvalue
    have htext : dumpsStr key ++ ':' :: (w ++ t) ++ s =
        '"' :: (key.flatMap escapeChar ++ '"' :: ':' :: (w ++ (t ++ s))) := by
      simp [dumpsStr]
    rw [htext]
    exact scanField_colon (scanString_literal key _) (skipWs_cons (by decide) _) hvalue

end

theorem loads_prints (float : Text → Number) {v : Json} {t : Text} (h : Prints v t) :
    loads float t = some v := by
  have hscan := scanValue_prints float h (t.length + 1) follows_nil (Nat.lt_succ_self _)
  have hskip := h.skipWs blank_nil []
  rw [List.append_nil] at hscan hskip
  rw [List.nil_append] at hskip
  rw [loads, hskip, hscan]
  rfl

/-! ## The two printers -/

mutual

theorem prints_pretty : ∀ (v : Json), Readable v → ∀ k, Prints v (pretty k v)
  | .null, _, k => by rw [pretty]; exact .null
  | .bool true, _, k => by rw [pretty]; exact .bool
  | .bool false, _, k => by rw [pretty]; exact .bool
  | .num n, h, k => by
    rw [Readable] at h
    obtain ⟨i, rfl, hi⟩ := h
    rw [pretty]
    exact .num hi
  | .str t, _, k => by rw [pretty]; exact .str
  | .arr [], _, k => by rw [pretty]; exact .emptyArr
  | .arr (v :: vs), h, k => by
    rw [Readable, ReadableItems] at h
    rw [pretty]
    exact .arr (blank_newline _) (prints_pretty v h.1 _) (prints_prettyItems vs h.2 k)
  | .obj [], _, k => by rw [pretty]; exact .emptyObj
  | .obj (f :: fs), h, k => by
    rw [Readable, ReadableFields] at h
    rw [pretty]
    exact .obj h.1 (blank_newline _) (prints_prettyField f h.2.1 _)
      (prints_prettyFields fs h.2.2 k)

theorem prints_prettyItems : ∀ (vs : List Json), ReadableItems vs → ∀ k,
    PrintsItems vs (prettyItems k vs)
  | [], _, k => by rw [prettyItems]; exact .nil (blank_newline k)
  | v :: vs, h, k => by
    rw [ReadableItems] at h
    rw [prettyItems]
    exact .cons (blank_newline _) (prints_pretty v h.1 _) (prints_prettyItems vs h.2 k)

theorem prints_prettyFields : ∀ (fs : List (Text × Json)), ReadableFields fs → ∀ k,
    PrintsFields fs (prettyFields k fs)
  | [], _, k => by rw [prettyFields]; exact .nil (blank_newline k)
  | f :: fs, h, k => by
    rw [ReadableFields] at h
    rw [prettyFields]
    exact .cons (blank_newline _) (prints_prettyField f h.1 _) (prints_prettyFields fs h.2 k)

theorem prints_prettyField : ∀ (f : Text × Json), Readable f.2 → ∀ k,
    PrintsField f (prettyField k f)
  | (key, v), h, k => by
    rw [prettyField]
    exact .mk blank_space (prints_pretty v h k)

end

mutual

theorem prints_dumps : ∀ (v : Json), Readable v → Prints v (dumps v)
  | .null, _ => by rw [dumps]; exact .null
  | .bool _, _ => .bool
  | .num n, h => by
    rw [Readable] at h
    obtain ⟨i, rfl, hi⟩ := h
    rw [dumps]
    exact .num hi
  | .str t, _ => by rw [dumps]; exact .str
  | .arr [], _ => by rw [dumps]; exact .emptyArr
  | .arr (v :: vs), h => by
    rw [Readable, ReadableItems] at h
    rw [dumps]
    exact .arr blank_nil (prints_dumps v h.1) (prints_dumpsItems vs h.2)
  | .obj [], _ => by rw [dumps]; exact .emptyObj
  | .obj (f :: fs), h => by
    rw [Readable, ReadableFields] at h
    rw [dumps]
    exact .obj h.1 blank_nil (prints_dumpsField f h.2.1) (prints_dumpsFields fs h.2.2)

theorem prints_dumpsItems : ∀ (vs : List Json), ReadableItems vs →
    PrintsItems vs (dumpsItems vs)
  | [], _ => by rw [dumpsItems]; exact .nil blank_nil
  | v :: vs, h => by
    rw [ReadableItems] at h
    rw [dumpsItems]
    exact .cons blank_nil (prints_dumps v h.1) (prints_dumpsItems vs h.2)

theorem prints_dumpsFields : ∀ (fs : List (Text × Json)), ReadableFields fs →
    PrintsFields fs (dumpsFields fs)
  | [], _ => by rw [dumpsFields]; exact .nil blank_nil
  | f :: fs, h => by
    rw [ReadableFields] at h
    rw [dumpsFields]
    exact .cons blank_nil (prints_dumpsField f h.1) (prints_dumpsFields fs h.2)

theorem prints_dumpsField : ∀ (f : Text × Json), Readable f.2 → PrintsField f (dumpsField f)
  | (key, v), h => by
    rw [dumpsField]
    exact .mk blank_nil (prints_dumps v h)

end

/-- **What is printed is read back.** -/
theorem loads_pretty (float : Text → Number) {v : Json} (h : Readable v) :
    loads float (pretty 0 v) = some v :=
  loads_prints float (prints_pretty v h 0)

/-- **What is printed without blanks is read back.** -/
theorem loads_dumps (float : Text → Number) {v : Json} (h : Readable v) :
    loads float (dumps v) = some v :=
  loads_prints float (prints_dumps v h)

end Concord.Python.Json
