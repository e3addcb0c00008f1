import Spreadsheet.Proofs.Report.Grid
import Spreadsheet.Report.Csv

/-!
# Reading comma-separated text

What a sheet shows is read back from its comma-separated text, field by field, whatever
characters are shown. Commas stand between the fields of a record, every record ends with a line
feed, and a field inside quotes may hold any character, with its quotes written twice.

- `IsField`, `IsRecord`, `IsFile`: the texts of a field, of a record and of all records.
- `Csv.read?`: reads records, one character after the other.
- `read?_eq_some_iff`: it reads the format, so that no text has two readings.
- `isFile_render`: records that are rendered are texts of the format.
- `Sheet.csv_reads_back`: what is read from the text of a sheet.
-/

namespace Spreadsheet

namespace Csv

/-! ## The format -/

/-- A character that may stand in a field without quotes. -/
def isPlain (c : Char) : Bool := c ≠ ',' && c ≠ '"' && c ≠ '\r' && c ≠ '\n'

/-- A character inside quotes, where a quote is written twice. -/
def escape (c : Char) : List Char := if c = '"' then ['"', '"'] else [c]

/-- The texts of a field: as it is, if no character forbids it, or inside quotes. -/
inductive IsField : List Char → List Char → Prop
  | plain {field : List Char} (h : ∀ c ∈ field, isPlain c = true) : IsField field field
  | quoted (field : List Char) : IsField ('"' :: field.flatMap escape ++ ['"']) field

/-- The texts of a record: its fields, of which there is at least one, with commas between
them, and a line feed. -/
inductive IsRecord : List Char → List (List Char) → Prop
  | last {cs field : List Char} (h : IsField cs field) : IsRecord (cs ++ ['\n']) [field]
  | more {cs ds field : List Char} {fields : List (List Char)} (h : IsField cs field)
      (k : IsRecord ds fields) : IsRecord (cs ++ ',' :: ds) (field :: fields)

/-- The texts of records: those of each record, one after the other. -/
inductive IsFile : List Char → List (List (List Char)) → Prop
  | nil : IsFile [] []
  | cons {cs ds : List Char} {fields : List (List Char)} {records : List (List (List Char))}
      (h : IsRecord cs fields) (k : IsFile ds records) : IsFile (cs ++ ds) (fields :: records)

/-! ## Reading -/

/-- Where reading stands. -/
inductive Place where
  /-- At the start of a field. -/
  | start
  /-- In a field without quotes. -/
  | plain
  /-- Inside quotes. -/
  | quoted
  /-- After a quote inside quotes: the one that ends them, or the first of two. -/
  | closed
deriving DecidableEq, Repr

/-- Reads the rest of the records. What has been read of the current field is `field`, and of
the record before it `fields`, both backwards. -/
def readFrom (place : Place) (field : List Char) (fields : List (List Char)) :
    List Char → Option (List (List (List Char)))
  | [] => if place = .start ∧ fields = [] then some [] else none
  | c :: rest =>
    if place = .quoted then
      if c = '"' then readFrom .closed field fields rest
      else readFrom .quoted (c :: field) fields rest
    else if c = ',' then readFrom .start [] (field.reverse :: fields) rest
    else if c = '\n' then
      (readFrom .start [] [] rest).map ((fields.reverse ++ [field.reverse]) :: ·)
    else if c = '"' then
      if place = .start then readFrom .quoted field fields rest
      else if place = .closed then readFrom .quoted ('"' :: field) fields rest
      else none
    else if isPlain c ∧ place ≠ .closed then readFrom .plain (c :: field) fields rest
    else none

/-- Reads records. There is no result if the text is not of the format. -/
def read? (cs : List Char) : Option (List (List (List Char))) := readFrom .start [] [] cs

section

variable {place : Place} {c : Char} {field cs rest : List Char} {fields : List (List Char)}
  {records : List (List (List Char))}

/-- A comma ends a field. -/
theorem readFrom_comma (h : place ≠ .quoted) :
    readFrom place field fields (',' :: rest) =
      readFrom .start [] (field.reverse :: fields) rest := by
  rw [readFrom, if_neg h, if_pos rfl]

/-- A line feed ends a field and a record. -/
theorem readFrom_lineFeed (h : place ≠ .quoted) :
    readFrom place field fields ('\n' :: rest) =
      (readFrom .start [] [] rest).map ((fields.reverse ++ [field.reverse]) :: ·) := by
  rw [readFrom, if_neg h, if_neg (by decide), if_pos rfl]

/-- A plain character is part of its field. -/
theorem readFrom_plain (h : place = .start ∨ place = .plain) (hc : isPlain c = true) :
    readFrom place field fields (c :: rest) = readFrom .plain (c :: field) fields rest := by
  have hne : c ≠ ',' ∧ c ≠ '"' ∧ c ≠ '\n' := by
    refine ⟨?_, ?_, ?_⟩ <;> rintro rfl <;> cases hc
  have hplace : place ≠ .quoted ∧ place ≠ .closed := by
    rcases h with rfl | rfl <;> exact ⟨nofun, nofun⟩
  rw [readFrom, if_neg hplace.1, if_neg hne.1, if_neg hne.2.2, if_neg hne.2.1,
    if_pos ⟨hc, hplace.2⟩]

/-! ## What is of the format is read -/

/-- So is a run of them. -/
theorem readFrom_append_plain (field : List Char) (fields : List (List Char))
    (hplace : place = .start ∨ place = .plain) (h : ∀ c ∈ cs, isPlain c = true) :
    ∃ after, after ≠ Place.quoted ∧
      ∀ rest, readFrom place field fields (cs ++ rest) =
        readFrom after (cs.reverse ++ field) fields rest := by
  induction cs generalizing place field with
  | nil => exact ⟨place, by rcases hplace with rfl | rfl <;> nofun, fun _ => rfl⟩
  | cons c cs ih =>
    obtain ⟨after, hafter, hread⟩ :=
      ih (c :: field) (.inr rfl) fun d hd => h d (List.mem_cons_of_mem c hd)
    refine ⟨after, hafter, fun rest => ?_⟩
    rw [List.cons_append, readFrom_plain hplace (h c List.mem_cons_self), hread,
      List.reverse_cons, List.append_assoc]
    rfl

/-- Inside quotes everything is read up to the quote that ends them. -/
theorem readFrom_append_quoted (cs field : List Char) (fields : List (List Char))
    (rest : List Char) :
    readFrom .quoted field fields (cs.flatMap escape ++ '"' :: rest) =
      readFrom .closed (cs.reverse ++ field) fields rest := by
  induction cs generalizing field with
  | nil => rfl
  | cons c cs ih =>
    have hstep : readFrom .quoted field fields
      (escape c ++ (cs.flatMap escape ++ '"' :: rest)) =
        readFrom .quoted (c :: field) fields (cs.flatMap escape ++ '"' :: rest) := by
      unfold escape
      by_cases hc : c = '"'
      · rw [hc, if_pos rfl]
        rfl
      · rw [if_neg hc, List.singleton_append, readFrom, if_pos rfl, if_neg hc]
    rw [List.flatMap_cons, List.append_assoc, hstep, ih, List.reverse_cons, List.append_assoc]
    rfl

/-- A field is read to its end, whatever follows. -/
theorem IsField.readFrom_append (h : IsField cs field) (fields : List (List Char)) :
    ∃ after, after ≠ Place.quoted ∧
      ∀ rest, readFrom .start [] fields (cs ++ rest) =
        readFrom after field.reverse fields rest := by
  cases h with
  | plain h =>
    obtain ⟨after, hafter, hread⟩ := readFrom_append_plain [] fields (.inl rfl) h
    rw [List.append_nil] at hread
    exact ⟨after, hafter, hread⟩
  | quoted field =>
    refine ⟨.closed, nofun, fun rest => ?_⟩
    have hread := readFrom_append_quoted field [] fields rest
    rw [List.append_nil] at hread
    rw [← hread, List.append_assoc, List.cons_append]
    rfl

/-- A record is read to its end, and the other records behind it. -/
theorem IsRecord.readFrom_append (h : IsRecord cs fields) (before : List (List Char))
    (rest : List Char) :
    readFrom .start [] before (cs ++ rest) =
      (read? rest).map ((before.reverse ++ fields) :: ·) := by
  induction h generalizing before with
  | last h =>
    obtain ⟨after, hafter, hread⟩ := h.readFrom_append before
    rw [List.append_assoc, hread, List.singleton_append, readFrom_lineFeed hafter,
      List.reverse_reverse]
    rfl
  | more h _ ih =>
    obtain ⟨after, hafter, hread⟩ := h.readFrom_append before
    rw [List.append_assoc, hread, List.cons_append, readFrom_comma hafter,
      List.reverse_reverse, ih, List.reverse_cons, List.append_assoc]
    rfl

/-- A text of the format is read as its records. -/
theorem IsFile.read?_eq_some (h : IsFile cs records) : read? cs = some records := by
  induction h with
  | nil => rfl
  | cons h _ ih =>
    rw [read?, h.readFrom_append, ih]
    rfl

/-! ## What is read is of the format -/

/-- What has been gone through of a field: the text, and the part of the field that was
read from it, backwards. -/
inductive Begun : Place → List Char → List Char → Prop
  | start : Begun .start [] []
  | plain {field : List Char} (h : ∀ c ∈ field, isPlain c = true) :
      Begun .plain field.reverse field
  | quoted (field : List Char) : Begun .quoted ('"' :: field.reverse.flatMap escape) field
  | closed (field : List Char) :
      Begun .closed ('"' :: field.reverse.flatMap escape ++ ['"']) field

/-- Outside quotation marks, what has been read of a field is one already. -/
theorem Begun.isField {before : List Char} (h : Begun place before field)
    (hplace : place ≠ .quoted) : IsField before field.reverse := by
  cases h with
  | start => exact .plain nofun
  | plain h => exact .plain fun c hc => h c (List.mem_reverse.mp hc)
  | quoted => exact absurd rfl hplace
  | closed => exact .quoted _

/-- One more character inside quotes. -/
theorem Begun.escape {before : List Char} (h : Begun .quoted before field) (c : Char) :
    Begun .quoted (before ++ escape c) (c :: field) := by
  cases h
  have hlonger := Begun.quoted (c :: field)
  rwa [List.reverse_cons, List.flatMap_append, List.flatMap_singleton] at hlonger

/-- One more character of a field without quotes. -/
theorem Begun.plain_cons {before : List Char} (h : Begun place before field)
    (hc : isPlain c = true)
    (hquoted : place ≠ .quoted) (hclosed : place ≠ .closed) :
    Begun .plain (before ++ [c]) (c :: field) := by
  cases h with
  | start => exact .plain (List.forall_mem_singleton.mpr hc)
  | plain h =>
    have hlonger := Begun.plain (List.forall_mem_cons.mpr ⟨hc, h⟩)
    rwa [List.reverse_cons] at hlonger
  | quoted => exact absurd rfl hquoted
  | closed => exact absurd rfl hclosed

/-- After `before` of a field and after the fields `fields`, the text goes on with the rest of a
record and with records, unless it ends between records. -/
def GoesOn (place : Place) (before : List Char) (fields : List (List Char)) (cs : List Char)
    (records : List (List (List Char))) : Prop :=
  (place = .start ∧ fields = [] ∧ cs = [] ∧ records = []) ∨
    ∃ ds es last later, before ++ cs = ds ++ es ∧ IsRecord ds last ∧ IsFile es later ∧
      records = (fields.reverse ++ last) :: later

/-- At the beginning of a record nothing has been read of it, so the rest is all there is. -/
theorem GoesOn.isFile (h : GoesOn place [] [] cs records) : IsFile cs records := by
  rcases h with ⟨-, -, rfl, rfl⟩ | ⟨ds, es, last, later, hsplit, hrecord, hfile, rfl⟩
  · exact .nil
  · rw [List.nil_append] at hsplit
    rw [hsplit]
    exact .cons hrecord hfile

/-- The text goes on as it does after one more character of the field. -/
theorem GoesOn.cons {next : Place} {before : List Char}
    (h : GoesOn next (before ++ [c]) fields cs records)
    (hnext : next ≠ .start) : GoesOn place before fields (c :: cs) records := by
  obtain ⟨ds, es, last, later, hsplit, hrest⟩ := h.resolve_left fun hend => hnext hend.1
  rw [List.append_assoc, List.singleton_append] at hsplit
  exact .inr ⟨ds, es, last, later, hsplit, hrest⟩

/-- After a comma the next field goes on. -/
theorem GoesOn.comma {before : List Char} (hfield : IsField before field)
    (h : GoesOn .start [] (field :: fields) cs records) :
    GoesOn place before fields (',' :: cs) records := by
  obtain ⟨ds, es, last, later, hsplit, hrecord, hfile, rfl⟩ :=
    h.resolve_left fun hend => nomatch hend.2.1
  rw [List.nil_append] at hsplit
  refine .inr ⟨before ++ ',' :: ds, es, field :: last, later, ?_,
    .more hfield hrecord, hfile, ?_⟩
  · rw [hsplit, List.append_assoc, List.cons_append]
  · rw [List.reverse_cons, List.append_assoc, List.singleton_append]

/-- A line feed ends the record. -/
theorem GoesOn.lineFeed {before : List Char} (hfield : IsField before field)
    (h : IsFile cs records) :
    GoesOn place before fields ('\n' :: cs) ((fields.reverse ++ [field]) :: records) := by
  refine .inr ⟨before ++ ['\n'], cs, [field], records, ?_, .last hfield, h, rfl⟩
  rw [List.append_assoc, List.singleton_append]

/-- What is read goes on from what has been read, by induction on the rest. -/
theorem goesOn_of_readFrom {before : List Char} (hbegun : Begun place before field)
    (h : readFrom place field fields cs = some records) :
    GoesOn place before fields cs records := by
  induction cs generalizing place before field fields records with
  | nil =>
    rw [readFrom] at h
    split at h
    · next hend => exact .inl ⟨hend.1, hend.2, rfl, (Option.some.inj h).symm⟩
    · cases h
  | cons c cs ih =>
    rw [readFrom] at h
    split at h
    · next hplace =>
      subst hplace
      split at h
      · next hc =>
        subst hc
        cases hbegun
        exact (ih (.closed field) h).cons nofun
      · next hc =>
        have hmore := hbegun.escape c
        rw [Csv.escape, if_neg hc] at hmore
        exact (ih hmore h).cons nofun
    next hplace =>
    have hfield := hbegun.isField hplace
    split at h
    · next hc =>
      subst hc
      exact .comma hfield (ih .start h)
    split at h
    · next hc =>
      subst hc
      obtain ⟨later, hlater, rfl⟩ := Option.map_eq_some_iff.mp h
      exact .lineFeed hfield (ih .start hlater).isFile
    split at h
    · next hc =>
      subst hc
      split at h
      · next hstart =>
        subst hstart
        cases hbegun
        exact (ih (.quoted []) h).cons nofun
      split at h
      · next hclosed =>
        subst hclosed
        cases hbegun
        -- the quote before was the first of two
        have hmore := Begun.escape (.quoted field) '"'
        rw [Csv.escape, if_pos rfl, List.append_cons] at hmore
        exact (ih hmore h).cons nofun
      · cases h
    split at h
    · next hc => exact (ih (hbegun.plain_cons hc.1 hplace hc.2) h).cons nofun
    · cases h

/-- What is read are the records of which the text is one. -/
theorem read?_eq_some_iff : read? cs = some records ↔ IsFile cs records :=
  ⟨fun h => (goesOn_of_readFrom .start h).isFile, IsFile.read?_eq_some⟩

end

/-! ## What is rendered is of the format -/

/-- A character is plain if it needs no quotation marks. -/
theorem isPlain_eq (c : Char) : isPlain c = !isSpecial c := by
  unfold isPlain isSpecial
  by_cases hcomma : c = ',' <;> by_cases hquote : c = '"' <;> by_cases hreturn : c = '\r' <;>
    by_cases hfeed : c = '\n' <;> simp [*]

theorem isField_field (text : List Char) : IsField (field text) text := by
  unfold field
  split
  · exact .quoted text
  · next h =>
    refine .plain fun c hc => ?_
    rw [isPlain_eq, Bool.not_eq_true']
    exact Bool.eq_false_iff.mpr fun hspecial => h (List.any_eq_true.mpr ⟨c, hc, hspecial⟩)

/-- Fields with commas between them are a record. -/
theorem isRecord_record {fields : List (List Char)} (hne : fields ≠ []) :
    IsRecord (record fields) fields := by
  induction fields with
  | nil => exact absurd rfl hne
  | cons text fields ih =>
    cases fields with
    | nil =>
      rw [record, List.map_singleton, List.intercalate_singleton]
      exact .last (isField_field text)
    | cons next fields =>
      have hsplit : record (text :: next :: fields) =
          field text ++ ',' :: record (next :: fields) := by
        unfold record
        rw [List.map_cons, List.map_cons, List.intercalate_cons_cons, List.append_assoc,
          List.append_assoc]
        rfl
      rw [hsplit]
      exact .more (isField_field text) (ih (List.cons_ne_nil _ _))

/-- Records that are rendered are of the format if each has a field. -/
theorem isFile_render {records : List (List (List Char))}
    (hne : ∀ fields ∈ records, fields ≠ []) : IsFile (render records) records := by
  induction records with
  | nil => exact .nil
  | cons fields records ih =>
    exact .cons (isRecord_record (hne fields List.mem_cons_self))
      (ih fun others h => hne others (List.mem_cons_of_mem fields h))

/-- Every character of a field is read back, and so are fields and lines with
nothing in them. -/
example : read? (render [[['a', ','], ['"', '\n', '\r'], []], [[]]]) =
    some [[['a', ','], ['"', '\n', '\r'], []], [[]]] := by decide

end Csv

/-! ## Sheets -/

namespace Sheet

/-- The text of a sheet has a line for each row and a field for each column in use,
with what the cell shows. -/
theorem csv_eq_of_extent {s : Sheet} {last : Position} (h : s.extent? = some last) :
    s.csv.toList = Csv.render ((List.range (last.row + 1)).map fun row =>
      (List.range (last.col + 1)).map fun col =>
        (((s.cell? ⟨row, col⟩).map Cell.display).getD "").toList) := by
  rw [csv, String.toList_ofList, shownRows_eq h, List.map_map]
  congr 1
  exact List.map_congr_left fun row _ => List.map_map

theorem csv_of_extent_none {s : Sheet} (h : s.extent? = none) : s.csv = "" := by
  rw [csv, shownRows, h]
  rfl

/-- The text of a sheet is empty exactly if no cell holds something. Otherwise it is read as
the matrix of what the cells show, up to the greatest row and the greatest column of a cell
that holds something. -/
theorem csv_reads_back (s : Sheet) :
    (s.csv = "" ↔ s.entries = []) ∧
    (s.entries = [] → Csv.read? s.csv.toList = some []) ∧
    (s.entries ≠ [] → ∃ lastRow lastCol,
      IsGreatest {row | ∃ e ∈ s.entries, e.1.row = row} lastRow ∧
      IsGreatest {col | ∃ e ∈ s.entries, e.1.col = col} lastCol ∧
      Csv.read? s.csv.toList = some ((List.range (lastRow + 1)).map fun row =>
        (List.range (lastCol + 1)).map fun col =>
          (((s.cell? ⟨row, col⟩).map Cell.display).getD "").toList)) := by
  cases hextent : s.extent? with
  | none =>
    have hempty := extent?_eq_none_iff.mp hextent
    have htext := csv_of_extent_none hextent
    refine ⟨⟨fun _ => hempty, fun _ => htext⟩, fun _ => ?_, fun hne => absurd hempty hne⟩
    rw [htext]
    rfl
  | some last =>
    have hne : s.entries ≠ [] :=
      fun hempty => nomatch (extent?_eq_none_iff.mpr hempty).symm.trans hextent
    obtain ⟨hrow, hcol⟩ := extent?_eq_some hextent
    have hread : Csv.read? s.csv.toList = some ((List.range (last.row + 1)).map fun row =>
        (List.range (last.col + 1)).map fun col =>
          (((s.cell? ⟨row, col⟩).map Cell.display).getD "").toList) := by
      rw [csv_eq_of_extent hextent]
      refine (Csv.isFile_render fun fields hfields => ?_).read?_eq_some
      obtain ⟨row, -, rfl⟩ := List.mem_map.mp hfields
      simp
    refine ⟨⟨fun htext => ?_, fun hempty => absurd hempty hne⟩, fun hempty => absurd hempty hne,
      fun _ => ⟨last.row, last.col, hrow, hcol, hread⟩⟩
    -- no text is read as several records and as none
    rw [htext] at hread
    have hnone : Csv.read? "".toList = some [] := rfl
    rw [hnone] at hread
    have hlength := congrArg List.length (Option.some.inj hread)
    rw [List.length_map, List.length_range] at hlength
    cases hlength

end Sheet

end Spreadsheet
