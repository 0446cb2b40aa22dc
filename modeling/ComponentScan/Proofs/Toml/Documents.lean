import ComponentScan.Proofs.Toml.Scalars
import ComponentScan.Proofs.Toml.Strings
import ComponentScan.Toml.Read

/-!
# Documents are read back

Tables that are written are read back as they were (`parse?_writeTables`), if their names are bare
words and no name comes twice. The text is taken line by line: each line leaves the reader at the
beginning of a line, with one entry more or one table more (`Takes`). So the text of the tables
takes the reader from the tables that came before to these and the ones that were written.
-/

namespace ComponentScan.Toml

/-! ## Names and values -/

/-- A name that may be written without quotation marks. -/
def IsBare (name : String) : Prop :=
  name ≠ "" ∧ name.toList.all DottedName.isNameChar = true

instance (name : String) : Decidable (IsBare name) :=
  inferInstanceAs (Decidable (_ ∧ _))

namespace Plain

/-- A value in the range of whole numbers. -/
def Fits : Plain → Prop
  | nat n => n < Nat.pow 2 128
  | _ => True

/-- The value that is read. -/
def toJson : Plain → Json
  | string s => .string s
  | nat n => .nat n
  | bool b => .bool b

end Plain

/-- A table that can be written. -/
structure IsWritable (t : String × List (String × Plain)) : Prop where
  name : IsBare t.1
  keys : ∀ key ∈ t.2.map Prod.fst, IsBare key
  distinct : (t.2.map Prod.fst).Nodup
  fits : ∀ e ∈ t.2, e.2.Fits

/-- The token `t` alone is the value `v`. -/
inductive Stands : Token → Json → Prop
  | text (s : String) (multiline : Bool) : Stands (.text s multiline) (.string s)
  | word {cs : List Char} {v : Json} (h : scalar? cs = some v) : Stands (.word cs) v

variable {name key : String} {p : Plain} {t : Token} {v : Json} {es : Entries}
  {d d' : Document}

theorem IsBare.all_isWordChar (h : IsBare name) : name.toList.all isWordChar = true := by
  refine List.all_eq_true.2 fun c hc => ?_
  have hname := List.all_eq_true.1 h.2 c hc
  simp only [DottedName.isNameChar, Bool.or_eq_true, beq_iff_eq] at hname
  simp only [isWordChar, Bool.or_eq_true, beq_iff_eq]
  exact .inl (.inl (.inl hname))

theorem IsBare.toList_ne_nil (h : IsBare name) : name.toList ≠ [] := by
  simpa using h.1

theorem IsBare.reads {c : Char} (h : IsBare name) (hc : isWordChar c = false) :
    Lexer.Reads name.toList [.word name.toList] c :=
  Lexer.reads_word h.toList_ne_nil h.all_isWordChar hc

/-- A bare name is one part of a dotted name. -/
theorem IsBare.add (h : IsBare name) :
    DottedName.add {} (.word name.toList) = some ⟨[name], true⟩ := by
  have hdot : '.' ∉ name.toList := fun hmem =>
    absurd (List.all_eq_true.1 h.2 '.' hmem) (by decide)
  rw [DottedName.add, DottedName.addWord, List.splitOn_eq_singleton hdot]
  simp only [List.foldlM_nil, DottedName.addBare]
  rw [if_neg h.toList_ne_nil, if_pos h.2, String.ofList_toList]
  rfl

theorem StringForm.exists_write_eq (f : StringForm) (cs : List Char) :
    ∃ rest, f.write cs = f.quote.mark :: rest := by
  obtain ⟨q, multiline⟩ := f
  cases multiline with
  | false => exact ⟨_, rfl⟩
  | true => exact ⟨_, rfl⟩

/-- A value does not begin with white space. -/
theorem Plain.exists_head_write (p : Plain) :
    ∃ c cs, p.write.toList = c :: cs ∧ c ≠ ' ' ∧ c ≠ '\t' := by
  cases p with
  | string s =>
    rw [Plain.write, writeString, String.toList_ofList]
    obtain ⟨cs, hcs⟩ := (formOf s.toList).exists_write_eq s.toList
    exact ⟨_, cs, hcs, by cases (formOf s.toList).quote <;> decide⟩
  | nat n =>
    rw [Plain.write, Nat.toString_eq_repr, Nat.toList_repr]
    obtain ⟨c, cs, hcs⟩ := List.exists_cons_of_ne_nil (Nat.toDigits_ne_nil (n := n) (b := 10))
    have hdigit := isDigit_of_mem_toDigits c (hcs ▸ List.mem_cons_self)
    refine ⟨c, cs, hcs, ?_, ?_⟩
    · rintro rfl
      exact absurd hdigit (by decide)
    · rintro rfl
      exact absurd hdigit (by decide)
  | bool b =>
    cases b with
    | false => exact ⟨'f', _, rfl, by decide, by decide⟩
    | true => exact ⟨'t', _, rfl, by decide, by decide⟩

/-- A value is written as one token. -/
theorem Plain.exists_stands (h : p.Fits) :
    ∃ t, Lexer.Reads p.write.toList [t] '\n' ∧ Stands t p.toJson := by
  cases p with
  | string s =>
    refine ⟨_, ?_, .text s (formOf s.toList).multiline⟩
    rw [Plain.write, writeString, String.toList_ofList]
    simpa using reads_write s.toList (c := '\n') (by decide) (by decide)
  | nat n =>
    refine ⟨_, ?_, .word (scalar?_toDigits h)⟩
    rw [Plain.write, Nat.toString_eq_repr, Nat.toList_repr]
    refine Lexer.reads_word Nat.toDigits_ne_nil (List.all_eq_true.2 fun c hc => ?_) (by decide)
    have hdigit := isDigit_of_mem_toDigits c hc
    simp [isWordChar, Char.isAlphanum, hdigit]
  | bool b =>
    cases b with
    | false =>
      exact ⟨.word "false".toList, Lexer.reads_word (by decide) (by decide) (by decide), .word rfl⟩
    | true =>
      exact ⟨.word "true".toList, Lexer.reads_word (by decide) (by decide) (by decide), .word rfl⟩

theorem afterValue_newline {path : List String} {r : Reader}
    (hd : r.document.enter path name v = some d') :
    r.afterValue [.line path name] v .newline = ⟨d', .line⟩ := by
  simp only [Reader.afterValue, hd]

/-- A value that ends its line is entered. -/
theorem Stands.foldl_step {path : List String} (h : Stands t v)
    (hd : d.enter path name v = some d') :
    [t, .newline].foldl Reader.step ⟨d, .value [.line path name]⟩ = ⟨d', .line⟩ := by
  cases h with
  | text s multiline => exact afterValue_newline hd
  | @word cs v h =>
    have hvalue : Reader.step ⟨d, .value [.line path name]⟩ (.word cs) =
        ⟨d, if isDate cs then .afterDate [.line path name] v false
          else .after [.line path name] v⟩ := by
      show Reader.beginValue _ _ (.word cs) = _
      simp only [Reader.beginValue, h, Reader.enter]
    rw [List.foldl_cons, hvalue]
    split <;> exact afterValue_newline hd

/-! ## Lines -/

/-- The characters `cs` take the reader from `r` to `r'`, whatever follows. -/
def Takes (cs : List Char) (r r' : Reader) : Prop :=
  ∃ ts, Lexer.ReadsLines cs ts ∧ ts.foldl Reader.step r = r'

section Lines

variable {cs cs' : List Char} {r r' r'' : Reader}

theorem takes_nil (r : Reader) : Takes [] r r :=
  ⟨[], fun _ => rfl, rfl⟩

theorem Takes.append (h : Takes cs r r') (h' : Takes cs' r' r'') : Takes (cs ++ cs') r r'' := by
  obtain ⟨ts, hts, rfl⟩ := h
  obtain ⟨ts', hts', rfl⟩ := h'
  exact ⟨ts ++ ts', hts.append hts', List.foldl_append⟩

theorem takes_newline (d : Document) : Takes ['\n'] ⟨d, .line⟩ ⟨d, .line⟩ :=
  ⟨[.newline], Lexer.readsLines_newline, rfl⟩

theorem takes_header (hname : IsBare name) (hd : d.openTable [] name = some d') :
    Takes ("[" ++ name ++ "]\n").toList ⟨d, .line⟩ ⟨d', .line⟩ := by
  refine ⟨[.openBracket, .word name.toList, .closeBracket, .newline], ?_, ?_⟩
  · have hword := hname.reads (c := ']') (by decide)
    obtain ⟨c, cs, hcs⟩ := List.exists_cons_of_ne_nil hname.toList_ne_nil
    rw [hcs] at hword
    have hline := (((Lexer.reads_openBracket c).append hword).append
      (Lexer.reads_closeBracket '\n')).line
    simpa [hcs] using hline
  · have hword : Reader.step ⟨d, .bracket⟩ (.word name.toList) =
        ⟨d, .header ⟨[name], true⟩ false⟩ := by
      show Reader.orLose _ ((DottedName.add {} (.word name.toList)).map _) = _
      rw [hname.add]
      rfl
    have hclose : Reader.step ⟨d, .header ⟨[name], true⟩ false⟩ .closeBracket =
        ⟨d', .lineEnd⟩ := by
      show Reader.closeHeader _ (d.openTable [] name) = _
      rw [hd]
      rfl
    have hopen : Reader.step ⟨d, .line⟩ .openBracket = ⟨d, .bracket⟩ := rfl
    rw [List.foldl_cons, hopen, List.foldl_cons, hword, List.foldl_cons, hclose]
    rfl

theorem takes_entry (hkey : IsBare key) (hp : p.Fits) (hd : d.enter [] key p.toJson = some d') :
    Takes (key ++ " = " ++ p.write ++ "\n").toList ⟨d, .line⟩ ⟨d', .line⟩ := by
  obtain ⟨t, hvalue, hstands⟩ := p.exists_stands hp
  obtain ⟨c, cs, hcs, hspace, htab⟩ := p.exists_head_write
  refine ⟨[.word key.toList, .gap true, .equals, .gap true, t, .newline], ?_, ?_⟩
  · have hword := hkey.reads (c := ' ') (by decide)
    rw [hcs] at hvalue
    have hline := ((((hword.append (Lexer.reads_space (c := '=') (by decide) (by decide))).append
      (Lexer.reads_equals ' ')).append (Lexer.reads_space hspace htab)).append hvalue).line
    simpa [hcs] using hline
  · have hword : Reader.step ⟨d, .line⟩ (.word key.toList) = ⟨d, .name ⟨[key], true⟩⟩ := by
      show Reader.orLose _ ((DottedName.add {} (.word key.toList)).map _) = _
      rw [hkey.add]
      rfl
    rw [List.foldl_cons, hword]
    exact hstands.foldl_step hd

end Lines

/-! ## Tables under construction -/

theorem Entries.alter_of_not_mem (h : name ∉ es.map Prod.fst) (f : Option Node → Option Node) :
    es.alter name f = (f none).map fun n => es ++ [(name, n)] := by
  induction es with
  | nil => rfl
  | cons e es ih =>
    rw [List.map_cons] at h
    rw [alter, if_neg (Ne.symm (List.ne_of_not_mem_cons h)), ih (List.not_mem_of_not_mem_cons h)]
    cases f none <;> rfl

theorem Entries.alter_concat (h : name ∉ es.map Prod.fst) (n : Node)
    (f : Option Node → Option Node) :
    Entries.alter name f (es ++ [(name, n)]) = (f (some n)).map fun n' => es ++ [(name, n')] := by
  induction es with
  | nil =>
    rw [List.nil_append, alter, if_pos rfl]
    rfl
  | cons e es ih =>
    rw [List.map_cons] at h
    rw [List.cons_append, alter, if_neg (Ne.symm (List.ne_of_not_mem_cons h)),
      ih (List.not_mem_of_not_mem_cons h)]
    cases f (some n) <;> rfl

/-- The entries that are read of those that were written. -/
def entriesOf (es : List (String × Plain)) : Entries :=
  es.map fun e => (e.1, .value e.2.toJson)

/-- The tables that are read of those that were written. -/
def tablesOf (ts : List (String × List (String × Plain))) : Entries :=
  ts.map fun t => (t.1, .table .header (entriesOf t.2))

section Tables

variable {before tables : List (String × List (String × Plain))} {entries : List (String × Plain)}
  {header : List String}

theorem map_fst_entriesOf (entries : List (String × Plain)) :
    (entriesOf entries).map Prod.fst = entries.map Prod.fst := by
  simp [entriesOf]

theorem map_fst_tablesOf (tables : List (String × List (String × Plain))) :
    (tablesOf tables).map Prod.fst = tables.map Prod.fst := by
  simp [tablesOf]

theorem openTable_tablesOf (h : name ∉ before.map Prod.fst) :
    Document.openTable ⟨tablesOf before, header⟩ [] name =
      some ⟨tablesOf (before ++ [(name, [])]), [name]⟩ := by
  rw [← map_fst_tablesOf] at h
  rw [Document.openTable, Entries.openTable, Entries.descend, Entries.alter_of_not_mem h]
  simp [tablesOf, entriesOf]

theorem enter_tablesOf (hname : name ∉ before.map Prod.fst) (hkey : key ∉ entries.map Prod.fst) :
    Document.enter ⟨tablesOf (before ++ [(name, entries)]), [name]⟩ [] key p.toJson =
      some ⟨tablesOf (before ++ [(name, entries ++ [(key, p)])]), [name]⟩ := by
  rw [← map_fst_tablesOf] at hname
  rw [← map_fst_entriesOf] at hkey
  have hlast (es : List (String × Plain)) : tablesOf (before ++ [(name, es)]) =
      tablesOf before ++ [(name, .table .header (entriesOf es))] := by
    simp [tablesOf]
  have hnew : (entriesOf entries).insertNew key p.toJson =
      some (entriesOf (entries ++ [(key, p)])) := by
    rw [Entries.insertNew, Entries.alter_of_not_mem hkey]
    simp [entriesOf]
  rw [Document.enter, hlast, hlast, Entries.descend, Entries.alter_concat hname]
  simp [Entries.descend, Entries.insert, hnew]

/-! ## Tables -/

theorem fst_not_mem_of_nodup {α : Type} {e : String × α} {front back : List (String × α)}
    (h : ((front ++ e :: back).map Prod.fst).Nodup) : e.1 ∉ front.map Prod.fst := by
  rw [List.map_append, List.map_cons] at h
  exact fun hmem => (List.nodup_append.1 h).2.2 _ hmem _ List.mem_cons_self rfl

/-- The entries of a table, behind those that were read before. -/
theorem takes_entries (entries : List (String × Plain)) {more : List (String × Plain)}
    (hname : name ∉ before.map Prod.fst) (hdistinct : ((entries ++ more).map Prod.fst).Nodup)
    (hkeys : ∀ key ∈ more.map Prod.fst, IsBare key) (hfits : ∀ e ∈ more, e.2.Fits) :
    Takes (writeEntries more).toList ⟨⟨tablesOf (before ++ [(name, entries)]), [name]⟩, .line⟩
      ⟨⟨tablesOf (before ++ [(name, entries ++ more)]), [name]⟩, .line⟩ := by
  induction more generalizing entries with
  | nil =>
    rw [List.append_nil]
    exact takes_nil _
  | cons e more ih =>
    have hkey : e.1 ∉ entries.map Prod.fst := fst_not_mem_of_nodup hdistinct
    have hfirst := takes_entry (hkeys e.1 List.mem_cons_self) (hfits e List.mem_cons_self)
      (enter_tablesOf hname hkey)
    have hrest := ih (entries ++ [e]) (by rwa [← List.append_cons])
      (fun key' hkey' => hkeys key' (List.mem_cons_of_mem e.1 hkey'))
      (fun e' he' => hfits e' (List.mem_cons_of_mem e he'))
    rw [← List.append_cons] at hrest
    rw [writeEntries, List.map_cons, String.join_cons, String.toList_append]
    exact hfirst.append hrest

theorem takes_table {t : String × List (String × Plain)} (h : IsWritable t)
    (hname : t.1 ∉ before.map Prod.fst) (header : List String) :
    Takes ("[" ++ t.1 ++ "]\n" ++ writeEntries t.2).toList ⟨⟨tablesOf before, header⟩, .line⟩
      ⟨⟨tablesOf (before ++ [t]), [t.1]⟩, .line⟩ := by
  rw [String.toList_append]
  exact (takes_header h.name (openTable_tablesOf hname)).append
    (takes_entries [] hname h.distinct h.keys h.fits)

/-- Tables, behind those that were read before. -/
theorem takes_tables (before : List (String × List (String × Plain)))
    (hdistinct : ((before ++ tables).map Prod.fst).Nodup) (h : ∀ t ∈ tables, IsWritable t)
    (header : List String) :
    ∃ header', Takes (writeTables tables).toList ⟨⟨tablesOf before, header⟩, .line⟩
      ⟨⟨tablesOf (before ++ tables), header'⟩, .line⟩ := by
  induction tables generalizing before header with
  | nil =>
    rw [List.append_nil]
    exact ⟨header, takes_nil _⟩
  | cons t tables ih =>
    have hname : t.1 ∉ before.map Prod.fst := fst_not_mem_of_nodup hdistinct
    have hfirst := takes_table (h t List.mem_cons_self) hname header
    cases tables with
    | nil => exact ⟨[t.1], by rwa [writeTables, List.map_singleton, String.intercalate_singleton]⟩
    | cons u tables =>
      obtain ⟨header', hrest⟩ := ih (before ++ [t]) (by rwa [← List.append_cons])
        (fun t' ht' => h t' (List.mem_cons_of_mem t ht')) [t.1]
      rw [← List.append_cons] at hrest
      refine ⟨header', ?_⟩
      rw [writeTables, List.map_cons, List.map_cons, String.intercalate_cons_cons,
        String.toList_append, String.toList_append]
      exact (hfirst.append (takes_newline _)).append hrest

theorem head?_writeTables (tables : List (String × List (String × Plain))) :
    (writeTables tables).toList.head? ≠ some '\uFEFF' := by
  cases tables with
  | nil => simp [writeTables]
  | cons t tables =>
    cases tables with
    | nil => simp [writeTables]
    | cons u tables => simp [writeTables, String.intercalate_cons_cons]

theorem entriesToJson_eq_map (es : Entries) :
    Node.entriesToJson es = es.map fun e => (e.1, e.2.toJson) := by
  induction es with
  | nil => rfl
  | cons e es ih => rw [Node.entriesToJson, ih, List.map_cons]

theorem toJson_tablesOf (tables : List (String × List (String × Plain))) :
    (tablesOf tables).toJson = .object (tables.map fun t =>
      (t.1, .object (t.2.map fun e => (e.1, e.2.toJson)))) := by
  simp only [Entries.toJson, tablesOf, entriesOf, entriesToJson_eq_map, List.map_map,
    Function.comp_def, Node.toJson]

/-- Tables that are written are read back, each under its name and with its entries in order. -/
theorem parse?_writeTables (hdistinct : (tables.map Prod.fst).Nodup)
    (h : ∀ t ∈ tables, IsWritable t) :
    parse? (writeTables tables) = some (.object (tables.map fun t =>
      (t.1, .object (t.2.map fun e => (e.1, e.2.toJson))))) := by
  obtain ⟨header, ts, hts, hread⟩ := takes_tables [] hdistinct h []
  have hstart : ts.foldl Reader.step {} = ⟨⟨tablesOf tables, header⟩, .line⟩ := hread
  rw [parse?, Lexer.lex_of_readsLines hts (head?_writeTables tables), ofTokens?,
    List.foldl_append, hstart, ← toJson_tablesOf]
  rfl

end Tables

end ComponentScan.Toml
