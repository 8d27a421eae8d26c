import SealedTunnel.Proofs.Toml.Number
import SealedTunnel.Proofs.Toml.Quoted

/-!
# Documents are read back

A document that is written as lines of bare keys with their values, under headers of one bare key
each, is read as the tables that these lines describe. A line does to a draft what it says, whatever
the lines behind it say; so the lines of a whole document do one after the other what they say, and
from that the tables follow.

## Main definitions

* `Document.Bare`: the keys that are written without quotation marks
* `Document.Reads`: a text is read as a value
* `Document.Statement`: a line that says something, with the text and the effect of it
* `Document.Section`: a header with the keys under it

## Main results

* `Document.reads_write`, `Document.reads_toDigits`: strings and numbers are read back
* `Document.lines?_statements`: lines do what they say
* `Toml.parse?_sections`: a document is read back
-/

namespace SealedTunnel.Toml

namespace Document

variable {c : Char} {cs r rest more written : List Char} {key : String} {v : Value}
  {room fuel : Nat}

/-! ## Values -/

/-- A text at the end of a line is read as a value. -/
structure Reads (written : List Char) (v : Value) : Prop where
  starts : ∃ c r, written = c :: r ∧ isBlank c = false
  value : ∀ room more, value? room (written ++ '\n' :: more) = some (v, '\n' :: more)

/-- Without a bracket or a brace at its start, a text holds a value that holds no others. -/
theorem value?_cons (hbracket : c ≠ '[') (hbrace : c ≠ '{') (room : Nat) (r : List Char) :
    value? room (c :: r) = scalar? (c :: r) := by
  unfold value?
  split
  · rename_i heq
    exact absurd (List.cons.inj heq).1 hbracket
  · rename_i heq
    exact absurd (List.cons.inj heq).1 hbrace
  · rfl

/-- **A written string is read back.** -/
theorem reads_write (s : String) : Reads (Quoted.write s.toList) (.string s) := by
  have hread (more : List Char) :
      Quoted.read? (Quoted.write s.toList ++ '\n' :: more) = some (s.toList, '\n' :: more) :=
    Quoted.read?_write _ (by simp) (by simp)
  obtain ⟨r, hwrite | hwrite⟩ := Quoted.head_write s.toList
  · refine ⟨⟨'"', r, hwrite, by decide⟩, ?_⟩
    intro room more
    have := hread more
    rw [hwrite, List.cons_append] at this ⊢
    rw [value?_cons (by decide) (by decide)]
    simp [scalar?, this]
  · refine ⟨⟨'\'', r, hwrite, by decide⟩, ?_⟩
    intro room more
    have := hread more
    rw [hwrite, List.cons_append] at this ⊢
    rw [value?_cons (by decide) (by decide)]
    simp [scalar?, this]

theorem reads_boolean (b : Bool) :
    Reads (if b then "true" else "false").toList (.boolean b) := by
  cases b with
  | true =>
    refine ⟨⟨'t', ['r', 'u', 'e'], rfl, by decide⟩, ?_⟩
    intro room more
    show value? room ('t' :: 'r' :: 'u' :: 'e' :: '\n' :: more) = _
    rw [value?_cons (by decide) (by decide)]
    rfl
  | false =>
    refine ⟨⟨'f', ['a', 'l', 's', 'e'], rfl, by decide⟩, ?_⟩
    intro room more
    show value? room ('f' :: 'a' :: 'l' :: 's' :: 'e' :: '\n' :: more) = _
    rw [value?_cons (by decide) (by decide)]
    rfl

/-- **A written number is read back** if it has 63 bits. -/
theorem reads_toDigits {n : Nat} (h : n ≤ 9223372036854775807) :
    Reads (Nat.toDigits 10 n) (.integer n) := by
  obtain ⟨c, r, hdigits, hc⟩ := exists_toDigits n
  have hne (mark : Char) (hmark : ¬mark.isDigit) : c ≠ mark := by
    rintro rfl
    exact hmark hc
  refine ⟨⟨c, r, hdigits, ?_⟩, ?_⟩
  · simp [isBlank, hne ' ' (by decide), hne '\t' (by decide)]
  · intro room more
    have hnumeric := numeric?_toDigits h more
    rw [hdigits, List.cons_append] at hnumeric ⊢
    rw [value?_cons (hne '[' (by decide)) (hne '{' (by decide))]
    simp [scalar?, hne '"' (by decide), hne '\'' (by decide), hne 't' (by decide),
      hne 'f' (by decide), hnumeric]

/-! ## Keys -/

/-- A key that is written without quotation marks. -/
def Bare (key : String) : Prop :=
  key.toList ≠ [] ∧ ∀ c ∈ key.toList, isBare c

instance (key : String) : Decidable (Bare key) :=
  decidable_of_iff (key.toList ≠ [] ∧ key.toList.all isBare) (by simp [Bare])

theorem ne_of_isBare (h : isBare c) (mark : Char) (hmark : ¬isBare mark) : c ≠ mark := by
  rintro rfl
  exact hmark h

theorem skipBlanks_cons (h : isBlank c = false) (r : List Char) : skipBlanks (c :: r) = c :: r := by
  simp [skipBlanks, h]

theorem Bare.exists_cons (h : Bare key) : ∃ c r, key.toList = c :: r ∧ isBare c := by
  obtain ⟨c, r, hkey⟩ := List.exists_cons_of_ne_nil h.1
  exact ⟨c, r, hkey, h.2 c (by simp [hkey])⟩

theorem skipBlanks_space (r : List Char) : skipBlanks (' ' :: r) = skipBlanks r := by
  simp [skipBlanks, isBlank]

/-- A bare key is read up to the first character that no bare key has. -/
theorem keyPart?_bare (h : Bare key) (hc : ¬isBare c) (r : List Char) :
    keyPart? (key.toList ++ c :: r) = some (key, c :: r) := by
  obtain ⟨d, ds, hkey, hd⟩ := h.exists_cons
  have hquote : d ≠ '"' := ne_of_isBare hd _ (by decide)
  have hmark : d ≠ '\'' := ne_of_isBare hd _ (by decide)
  have hplain : Quoted.readLine? (key.toList ++ c :: r) = none := by
    rw [hkey, List.cons_append]
    unfold Quoted.readLine?
    split
    · exact absurd (List.cons.inj ‹_›).1 hquote
    · exact absurd (List.cons.inj ‹_›).1 hmark
    · rfl
  have htake : (key.toList ++ c :: r).takeWhile isBare = key.toList := by
    rw [List.takeWhile_append_of_pos h.2, List.takeWhile_cons_of_neg hc, List.append_nil]
  have hdrop : (key.toList ++ c :: r).dropWhile isBare = c :: r := by
    rw [List.dropWhile_append_of_pos h.2, List.dropWhile_cons_of_neg hc]
  simp [keyPart?, hplain, htake, hdrop, h.1]

/-- A key of one bare part has no path. -/
theorem key?_bare (h : Bare key) (hc : ¬isBare c) (hdot : ∀ ds, skipBlanks (c :: r) ≠ '.' :: ds) :
    key? (key.toList ++ c :: r) = some ([], key, skipBlanks (c :: r)) := by
  obtain ⟨d, ds, hkey, hd⟩ := h.exists_cons
  have hblank : isBlank d = false := by
    simp [isBlank, ne_of_isBare hd ' ' (by decide), ne_of_isBare hd '\t' (by decide)]
  have hskip : skipBlanks (key.toList ++ c :: r) = key.toList ++ c :: r := by
    rw [hkey, List.cons_append, skipBlanks_cons hblank]
  have hparts : keyParts? (depthLimit - 1) (key.toList ++ c :: r) =
      some ([key], skipBlanks (c :: r)) := by
    show keyParts? (78 + 1) _ = _
    rw [keyParts?, hskip, keyPart?_bare h hc]
    simp only [Option.bind_eq_bind, Option.bind_some]
    rfl
  simp [key?, hparts]

/-! ## Lines -/

/-- A line that says something: it opens a table, or gives a key a value. -/
inductive Statement where
  | header (key : String)
  | pair (key : String) (written : List Char) (v : Value)

namespace Statement

/-- How a line is written. There is an empty line before a header. -/
def text : Statement → List Char
  | header key => '\n' :: '[' :: (key.toList ++ [']', '\n'])
  | pair key written _ => key.toList ++ ' ' :: '=' :: ' ' :: (written ++ ['\n'])

/-- A line is written with a bare key, and with a text that is read as its value. -/
def Legible : Statement → Prop
  | header key => Bare key
  | pair key written v => Bare key ∧ Reads written v

/-- What a line does to a draft. -/
def apply : Statement → Draft → Option Draft
  | header key, d => d.openAt ⟨[], key, false⟩
  | pair key _ v, d => d.insert [] key v

end Statement

/-- What lines do to a draft, one after the other. -/
def Draft.applyAll (d : Draft) (sts : List Statement) : Option Draft :=
  sts.foldlM (fun d st => st.apply d) d

theorem lineEnd?_newline (more : List Char) : lineEnd? ('\n' :: more) = some more := by
  simp [lineEnd?, skipBlanks, isBlank, skipComment, newline?]

theorem header?_bare (h : Bare key) (more : List Char) :
    header? (key.toList ++ ']' :: '\n' :: more) = some (⟨[], key, false⟩, '\n' :: more) := by
  obtain ⟨d, ds, hkey, hd⟩ := h.exists_cons
  have hbracket : d ≠ '[' := ne_of_isBare hd _ (by decide)
  have hblanks : skipBlanks (']' :: '\n' :: more) = ']' :: '\n' :: more :=
    skipBlanks_cons (by decide) _
  have hread := key?_bare (r := '\n' :: more) h (c := ']') (by decide) (by simp [hblanks])
  rw [hblanks] at hread
  unfold header?
  split
  · rename_i heq
    rw [hkey, List.cons_append] at heq
    exact absurd (List.cons.inj heq).1 hbracket
  · simp [hread, word?]

theorem keyValue?_bare (h : Bare key) (hr : Reads written v) (room : Nat) (more : List Char) :
    keyValue? (value? room) (key.toList ++ ' ' :: '=' :: ' ' :: (written ++ '\n' :: more)) =
      some (([], key, v), '\n' :: more) := by
  obtain ⟨c, r, hwritten, hc⟩ := hr.starts
  have hequals : skipBlanks (' ' :: '=' :: ' ' :: (written ++ '\n' :: more)) =
      '=' :: ' ' :: (written ++ '\n' :: more) := by
    rw [skipBlanks_space, skipBlanks_cons (by decide)]
  have hvalue : skipBlanks (' ' :: (written ++ '\n' :: more)) = written ++ '\n' :: more := by
    rw [hwritten, List.cons_append, skipBlanks_space, skipBlanks_cons hc]
  have hread := key?_bare (r := '=' :: ' ' :: (written ++ '\n' :: more)) h (c := ' ') (by decide)
    (by simp [hequals])
  rw [hequals] at hread
  simp [keyValue?, hread, word?, hvalue, hr.value]

/-- Between the lines nothing is passed over but empty lines. -/
theorem skipGap_bare (h : Bare key) (more : List Char) :
    skipGap (key.toList ++ more) = key.toList ++ more := by
  obtain ⟨d, ds, hkey, hd⟩ := h.exists_cons
  have hne (mark : Char) (hmark : ¬isBare mark) : d ≠ mark := ne_of_isBare hd mark hmark
  rw [hkey, List.cons_append, skipGap, skipGapFrom]
  · simp [isBlank, hne ' ' (by decide), hne '\t' (by decide), hne '#' (by decide)]
  · exact hne '\n' (by decide)
  · exact hne '\r' (by decide)

/-- What is left to read behind a line does not begin with a line end that was passed over. -/
theorem lines?_of_line? {d : Draft} {next : Option Draft}
    (hgap : skipGap cs = c :: r) (hline : line? d (c :: r) = next.map fun d => (d, more))
    (fuel : Nat) : lines? (fuel + 1) d cs = next.bind fun d => lines? fuel d more := by
  rw [lines?, hgap]
  simp only [hline]
  cases next <;> rfl

/-- **A line does what it says**, whatever the lines behind it say. -/
theorem lines?_cons {st : Statement} (h : st.Legible) (fuel : Nat) (d : Draft) (more : List Char) :
    lines? (fuel + 1) d (st.text ++ more) = (st.apply d).bind fun d => lines? fuel d more := by
  cases st with
  | header key =>
    have hgap : skipGap (Statement.text (.header key) ++ more) =
        '[' :: (key.toList ++ ']' :: '\n' :: more) := by
      simp [Statement.text, skipGap, skipGapFrom, isBlank]
    refine lines?_of_line? hgap ?_ fuel
    show (header? _).bind _ = _
    rw [header?_bare h]
    simp only [Option.bind_some, lineEnd?_newline, Statement.apply]
    cases d.openAt ⟨[], key, false⟩ <;> rfl
  | pair key written v =>
    obtain ⟨hkey, hvalue⟩ := h
    obtain ⟨c, r, hfirst, hc⟩ := hkey.exists_cons
    have htext : Statement.text (.pair key written v) ++ more =
        key.toList ++ ' ' :: '=' :: ' ' :: (written ++ '\n' :: more) := by
      simp [Statement.text]
    have hread := keyValue?_bare hkey hvalue (depthLimit - 1) more
    have hgap := skipGap_bare hkey (' ' :: '=' :: ' ' :: (written ++ '\n' :: more))
    rw [htext]
    rw [hfirst, List.cons_append] at hread hgap ⊢
    refine lines?_of_line? hgap ?_ fuel
    have hbracket : c ≠ '[' := ne_of_isBare hc _ (by decide)
    unfold line?
    split
    · exact absurd (List.cons.inj ‹_›).1 hbracket
    · rw [hread]
      simp only [Option.bind_eq_bind, Option.bind_some, lineEnd?_newline, Statement.apply]
      cases d.insert [] key v <;> rfl

/-- **Lines do one after the other what they say.** -/
theorem lines?_statements {sts : List Statement} (h : ∀ st ∈ sts, st.Legible) (d : Draft)
    (hfuel : sts.length < fuel) :
    lines? fuel d (sts.flatMap Statement.text) = d.applyAll sts := by
  induction sts generalizing d fuel with
  | nil =>
    obtain ⟨fuel, rfl⟩ := Nat.exists_eq_add_of_lt hfuel
    rw [List.flatMap_nil, lines?]
    rfl
  | cons st sts ih =>
    rw [List.forall_mem_cons] at h
    cases fuel with
    | zero => exact absurd hfuel (Nat.not_lt_zero _)
    | succ fuel =>
      rw [List.flatMap_cons, lines?_cons h.1, Draft.applyAll, List.foldlM_cons]
      refine congrArg _ (funext fun d => ?_)
      exact ih h.2 d (Nat.lt_of_succ_lt_succ hfuel)

theorem applyAll_append (d : Draft) (first second : List Statement) :
    d.applyAll (first ++ second) = (d.applyAll first).bind fun d => d.applyAll second := by
  rw [Draft.applyAll, List.foldlM_append]
  rfl

/-! ## Tables -/

/-- Keys, each with the text of its value and the value itself. -/
abbrev Fields := List (String × List Char × Value)

/-- The lines for these keys. -/
def Fields.statements (fields : Fields) : List Statement :=
  fields.map fun (key, written, v) => .pair key written v

/-- The table of these keys. -/
def Fields.entries (fields : Fields) : Entries :=
  fields.map fun (key, _, v) => (key, v)

/-- A header and the keys under it. -/
structure Section where
  key : String
  fields : Fields

/-- The lines of a section. -/
def Section.statements (s : Section) : List Statement :=
  .header s.key :: s.fields.statements

/-- The table of a section, by its key. -/
def Section.entry (s : Section) : String × Value :=
  (s.key, .table .header s.fields.entries)

variable {d : Draft} {entries : Entries}

theorem any_eq_false_of_new (h : key ∉ entries.map Prod.fst) :
    (entries.any fun e => e.1 = key) = false := by
  rw [List.any_eq_false]
  intro e he hkey
  exact h (List.mem_map.2 ⟨e, he, of_decide_eq_true hkey⟩)

theorem value?_eq_none_of_new (h : key ∉ entries.map Prod.fst) : entries.value? key = none := by
  have hnone : List.find? (fun e => e.1 = key) entries = none := by
    rw [List.find?_eq_none]
    intro e he hkey
    exact h (List.mem_map.2 ⟨e, he, of_decide_eq_true hkey⟩)
  rw [Entries.value?, hnone]
  rfl

/-- New keys come last in the table that is being filled. -/
theorem applyAll_fields (d : Draft) (fields : Fields)
    (h : (d.current.map Prod.fst ++ fields.map Prod.fst).Nodup) :
    d.applyAll fields.statements = some { d with current := d.current ++ fields.entries } := by
  induction fields generalizing d with
  | nil => simp [Draft.applyAll, Fields.statements, Fields.entries]
  | cons field fields ih =>
    obtain ⟨key, written, v⟩ := field
    have hnew : key ∉ d.current.map Prod.fst := by
      intro hmem
      exact (List.nodup_append.1 h).2.2 key hmem key List.mem_cons_self rfl
    have hinsert : d.insert [] key v = some { d with current := d.current ++ [(key, v)] } := by
      rw [Draft.insert, insertDotted, Entries.add?, any_eq_false_of_new hnew]
      rfl
    have hrest := ih { d with current := d.current ++ [(key, v)] } (by simpa using h)
    show (d.insert [] key v).bind (fun d => d.applyAll (Fields.statements fields)) = _
    rw [hinsert, Option.bind_some, hrest]
    simp [Fields.entries]

/-- A header with a new key opens an empty table. -/
theorem openAt_new (hd : d.finish = some entries) (hnew : key ∉ entries.map Prod.fst) :
    d.openAt ⟨[], key, false⟩ = some ⟨entries, some ⟨[], key, false⟩, []⟩ := by
  simp [Draft.openAt, hd, modifyAt, adopt, value?_eq_none_of_new hnew]

/-- It is put away behind the tables before it. -/
theorem finish_new (hnew : key ∉ entries.map Prod.fst) (current : Entries) :
    Draft.finish ⟨entries, some ⟨[], key, false⟩, current⟩ =
      some (entries ++ [(key, .table .header current)]) := by
  simp [Draft.finish, modifyAt, settle, Entries.put, any_eq_false_of_new hnew]

/-- **Sections become tables**, one behind the other. -/
theorem applyAll_sections (sections : List Section) (hd : d.finish = some entries)
    (hkeys : (entries.map Prod.fst ++ sections.map Section.key).Nodup)
    (hfields : ∀ s ∈ sections, (s.fields.map Prod.fst).Nodup) :
    (d.applyAll (sections.flatMap Section.statements)).bind Draft.finish =
      some (entries ++ sections.map Section.entry) := by
  induction sections generalizing d entries with
  | nil => simp [Draft.applyAll, hd]
  | cons s sections ih =>
    rw [List.forall_mem_cons] at hfields
    have hnew : s.key ∉ entries.map Prod.fst := by
      intro hmem
      exact (List.nodup_append.1 hkeys).2.2 s.key hmem s.key List.mem_cons_self rfl
    have hfinish := finish_new hnew s.fields.entries
    have hrest := ih hfinish (by simpa using hkeys) hfields.2
    have hfilled := applyAll_fields ⟨entries, some ⟨[], s.key, false⟩, []⟩ s.fields
      (by simpa using hfields.1)
    rw [List.flatMap_cons, applyAll_append, Section.statements]
    show (((d.openAt ⟨[], s.key, false⟩).bind fun d => d.applyAll s.fields.statements).bind _).bind
      _ = _
    rw [openAt_new hd hnew, Option.bind_some, hfilled, Option.bind_some, List.nil_append, hrest]
    simp [Section.entry]

theorem skipMark_statements {sts : List Statement} (h : ∀ st ∈ sts, st.Legible) :
    skipMark (sts.flatMap Statement.text) = sts.flatMap Statement.text := by
  have hhead : (sts.flatMap Statement.text).head? ≠ some '\uFEFF' := by
    cases sts with
    | nil => simp
    | cons st sts =>
      rw [List.forall_mem_cons] at h
      cases st with
      | header key => simp [Statement.text]
      | pair key written v =>
        obtain ⟨c, r, hkey, hc⟩ := h.1.1.exists_cons
        have hmark : c ≠ '\uFEFF' := ne_of_isBare hc _ (by decide)
        simp [Statement.text, hkey, hmark]
  unfold skipMark
  split
  · rename_i heq
    rw [heq] at hhead
    exact absurd rfl hhead
  · rfl

theorem length_le_text (sts : List Statement) :
    sts.length ≤ (sts.flatMap Statement.text).length := by
  induction sts with
  | nil => exact Nat.le_refl 0
  | cons st sts ih =>
    have hpos : st.text ≠ [] := by
      cases st with
      | header key => exact List.cons_ne_nil _ _
      | pair key written v => simp [Statement.text]
    have := List.length_pos_iff.2 hpos
    rw [List.flatMap_cons, List.length_append, List.length_cons]
    omega

end Document

open Document

/-- **A document is read back**: from the lines of some keys and of the sections behind them come
the tables that they describe. -/
theorem parse?_sections {text : String} {top : Fields} {sections : List Section}
    (htext : text.toList =
      (top.statements ++ sections.flatMap Section.statements).flatMap Statement.text)
    (hlegible : ∀ st ∈ top.statements ++ sections.flatMap Section.statements, st.Legible)
    (hkeys : (top.map Prod.fst ++ sections.map Section.key).Nodup)
    (hfields : ∀ s ∈ sections, (s.fields.map Prod.fst).Nodup) :
    parse? text = some (top.entries ++ sections.map Section.entry) := by
  have hfuel := Nat.lt_succ_of_le
    (length_le_text (top.statements ++ sections.flatMap Section.statements))
  have htop := applyAll_fields {} top (by simpa using (List.nodup_append.1 hkeys).1)
  have hfinish : Draft.finish { current := [] ++ top.entries } = some top.entries := rfl
  have hsections := applyAll_sections sections hfinish
    (by simpa [Fields.entries, Function.comp_def] using hkeys) hfields
  unfold parse?
  rw [htext]
  dsimp only
  rw [skipMark_statements hlegible, lines?_statements hlegible {} hfuel, applyAll_append, htop]
  exact hsections

end SealedTunnel.Toml
