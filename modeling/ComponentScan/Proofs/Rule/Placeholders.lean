import ComponentScan.Proofs.Rule.Anchors

/-!
# Names and versions made from templates

A template is filled in twice, first with the name of the directory and then with the name of the
file. So the name of the file also gets where the directory's name has brought a placeholder into
being, and a name or a version is what its template says exactly when none has come into being, or
the file is called like the placeholder itself (`contribute_fills_at_once`).
-/

namespace ComponentScan

open ComponentScan.Text

namespace Rule

/-! ## Templates -/

/-- What a template is made of. -/
inductive TemplatePart where
  | char (c : Char)
  | dir
  | file
  deriving Repr, DecidableEq

/-- The parts of a template. Placeholders cannot overlap. -/
def templateParts : List Char → List TemplatePart
  | '\x7b' :: 'd' :: 'i' :: 'r' :: '\x7d' :: cs => .dir :: templateParts cs
  | '\x7b' :: 'f' :: 'i' :: 'l' :: 'e' :: '\x7d' :: cs => .file :: templateParts cs
  | c :: cs => .char c :: templateParts cs
  | [] => []

/-- A part with the names filled in. -/
def TemplatePart.fill (dir file : List Char) : TemplatePart → List Char
  | char c => [c]
  | .dir => dir
  | .file => file

/-- The parts of a template with the names filled in. -/
def fillParts (parts : List TemplatePart) (dir file : List Char) : List Char :=
  parts.flatMap (·.fill dir file)

/-- A template with the names in the places of its own placeholders. -/
def fillAtOnce (template dir file : String) : String :=
  String.ofList (fillParts (templateParts template.toList) dir.toList file.toList)

/-- Whether the name of the directory brings no placeholder for a file name into being. -/
def NoneArises (template dir : String) : Prop :=
  places filePlaceholder.toList (Text.replace template dirPlaceholder dir).toList =
    places filePlaceholder.toList template.toList

instance (template dir : String) : Decidable (NoneArises template dir) :=
  inferInstanceAs (Decidable (_ = _))

/-! ## Reading a template -/

theorem fillParts_cons (part : TemplatePart) (parts : List TemplatePart) (dir file : List Char) :
    fillParts (part :: parts) dir file = part.fill dir file ++ fillParts parts dir file :=
  List.flatMap_cons

theorem beginsOnce_filePlaceholder : BeginsOnce filePlaceholder.toList :=
  ⟨'\x7b', ['f', 'i', 'l', 'e', '\x7d'], rfl, by decide⟩

/-- Filling in the directory's name keeps the other parts. -/
theorem replaceFrom_dirPlaceholder (dir cs : List Char) :
    replaceFrom dirPlaceholder.toList dir 0 cs =
      fillParts (templateParts cs) dir filePlaceholder.toList := by
  fun_induction templateParts cs with
  | case1 cs ih =>
    rw [fillParts_cons, ← ih]
    exact replaceFrom_append (by decide) dir cs
  | case2 cs ih =>
    rw [fillParts_cons, ← ih]
    rfl
  | case3 c cs hdir hfile ih =>
    have hkept : ¬ dirPlaceholder.toList <+: c :: cs := by
      rintro ⟨rest, hrest⟩
      cases hrest
      exact hdir rest rfl rfl
    rw [fillParts_cons, ← ih, replaceFrom_cons hkept]
    rfl
  | case4 => rfl

/-- The placeholders for a file name are the places where it stands. -/
theorem places_filePlaceholder (cs : List Char) :
    places filePlaceholder.toList cs = (templateParts cs).count .file := by
  fun_induction templateParts cs with
  | case1 cs ih =>
    have hkept : ¬ filePlaceholder.toList <+: '\x7b' :: (['d', 'i', 'r', '\x7d'] ++ cs) := by
      rintro ⟨rest, hrest⟩
      cases hrest
    rw [List.count_cons_of_ne (by decide), ← ih]
    exact (places_cons_kept hkept).trans (places_append_of_not_mem (by decide))
  | case2 cs ih =>
    rw [List.count_cons_self, ← ih]
    exact places_append beginsOnce_filePlaceholder cs
  | case3 c cs hdir hfile ih =>
    have hkept : ¬ filePlaceholder.toList <+: c :: cs := by
      rintro ⟨rest, hrest⟩
      cases hrest
      exact hfile rest rfl rfl
    rw [List.count_cons_of_ne (by simp), ← ih, places_cons_kept hkept]
  | case4 => rfl

/-! ## Filling it in -/

variable {dir file u : List Char} {parts : List TemplatePart}

/-- The template's own placeholders are still there when the directory's name is filled in. -/
theorem count_le_places (dir u : List Char) (parts : List TemplatePart) :
    parts.count .file ≤
      places filePlaceholder.toList (u ++ fillParts parts dir filePlaceholder.toList) := by
  induction parts generalizing u with
  | nil => exact Nat.zero_le _
  | cons part parts ih =>
    rw [fillParts_cons]
    cases part with
    | file =>
      have hrest := ih []
      rw [List.nil_append] at hrest
      rw [List.count_cons_self, TemplatePart.fill, places_around beginsOnce_filePlaceholder]
      omega
    | dir | char c =>
      rw [List.count_cons_of_ne (by simp), ← List.append_assoc]
      exact ih _

/-- Where no placeholder has come into being, the file's name gets into the template's own. -/
theorem replaceFrom_of_places_eq
    (h : places filePlaceholder.toList (u ++ fillParts parts dir filePlaceholder.toList) =
      parts.count .file) :
    replaceFrom filePlaceholder.toList file 0 (u ++ fillParts parts dir filePlaceholder.toList) =
      u ++ fillParts parts dir file := by
  induction parts generalizing u with
  | nil => exact (replaceFrom_eq_self_iff beginsOnce_filePlaceholder).2 (.inl h)
  | cons part parts ih =>
    rw [fillParts_cons] at h
    rw [fillParts_cons, fillParts_cons]
    cases part with
    | file =>
      have hrest := count_le_places dir [] parts
      rw [List.nil_append] at hrest
      rw [List.count_cons_self, TemplatePart.fill, places_around beginsOnce_filePlaceholder] at h
      have hfront : replaceFrom filePlaceholder.toList file 0 u = u :=
        (replaceFrom_eq_self_iff beginsOnce_filePlaceholder).2 (.inl (by omega))
      have hback := ih (u := []) (by rw [List.nil_append]; omega)
      rw [TemplatePart.fill, TemplatePart.fill, replaceFrom_around beginsOnce_filePlaceholder,
        hfront]
      exact congrArg (u ++ ·) (congrArg (file ++ ·) hback)
    | dir | char c =>
      rw [List.count_cons_of_ne (by simp), ← List.append_assoc] at h
      rw [← List.append_assoc, ← List.append_assoc]
      exact ih h

theorem length_fillParts (parts : List TemplatePart) (dir file : List Char) :
    (fillParts parts dir file).length + filePlaceholder.toList.length * parts.count .file =
      (fillParts parts dir filePlaceholder.toList).length + file.length * parts.count .file := by
  induction parts with
  | nil => rfl
  | cons part parts ih =>
    rw [fillParts_cons, fillParts_cons, List.length_append, List.length_append]
    cases part with
    | file =>
      rw [List.count_cons_self, Nat.mul_add_one, Nat.mul_add_one, TemplatePart.fill,
        TemplatePart.fill]
      omega
    | dir | char c =>
      rw [List.count_cons_of_ne (by simp)]
      simp only [TemplatePart.fill]
      omega

/-- If a name that is as long as the placeholder, but another text, gets nowhere but into the
template's own placeholders, there are no others. -/
theorem places_eq_of_length_eq (hlength : file.length = filePlaceholder.toList.length)
    (hne : file ≠ filePlaceholder.toList)
    (h : replaceFrom filePlaceholder.toList file 0
        (u ++ fillParts parts dir filePlaceholder.toList) = u ++ fillParts parts dir file) :
    places filePlaceholder.toList (u ++ fillParts parts dir filePlaceholder.toList) =
      parts.count .file := by
  induction parts generalizing u with
  | nil => exact ((replaceFrom_eq_self_iff beginsOnce_filePlaceholder).1 h).resolve_right hne
  | cons part parts ih =>
    rw [fillParts_cons, fillParts_cons] at h
    rw [fillParts_cons]
    cases part with
    | file =>
      rw [TemplatePart.fill, TemplatePart.fill, replaceFrom_around beginsOnce_filePlaceholder] at h
      have hsame := length_replaceFrom beginsOnce_filePlaceholder file u
      rw [hlength, Nat.add_right_cancel_iff] at hsame
      obtain ⟨hfront, hback⟩ := List.append_inj h hsame
      have hnone :=
        ((replaceFrom_eq_self_iff beginsOnce_filePlaceholder).1 hfront).resolve_right hne
      have hrest := ih (u := []) (List.append_cancel_left hback)
      rw [List.nil_append] at hrest
      rw [TemplatePart.fill, places_around beginsOnce_filePlaceholder, hnone, hrest,
        List.count_cons_self, Nat.zero_add]
    | dir | char c =>
      rw [← List.append_assoc, ← List.append_assoc] at h
      rw [← List.append_assoc, List.count_cons_of_ne (by simp)]
      exact ih h

/-- The file's name is where the template asks for it exactly when no placeholder has come into
being, or it is the placeholder. -/
theorem replaceFrom_eq_fillParts_iff (parts : List TemplatePart) (dir file : List Char) :
    replaceFrom filePlaceholder.toList file 0 (fillParts parts dir filePlaceholder.toList) =
        fillParts parts dir file ↔
      places filePlaceholder.toList (fillParts parts dir filePlaceholder.toList) =
        parts.count .file ∨ file = filePlaceholder.toList := by
  constructor
  · intro h
    by_cases hne : file = filePlaceholder.toList
    · exact .inr hne
    left
    by_cases hlength : file.length = filePlaceholder.toList.length
    · exact places_eq_of_length_eq (u := []) hlength hne h
    -- otherwise each further placeholder makes a difference to the length
    obtain ⟨more, hmore⟩ := Nat.exists_eq_add_of_le (count_le_places dir [] parts)
    have hfilled := length_replaceFrom beginsOnce_filePlaceholder file
      (fillParts parts dir filePlaceholder.toList)
    have hparts := length_fillParts parts dir file
    rw [List.nil_append] at hmore
    rw [h, hmore, Nat.mul_add, Nat.mul_add] at hfilled
    have hequal : filePlaceholder.toList.length * more = file.length * more := by omega
    have hzero : more = 0 := by
      by_contra hpos
      exact hlength (Nat.eq_of_mul_eq_mul_right (Nat.pos_of_ne_zero hpos) hequal).symm
    rw [hmore, hzero, Nat.add_zero]
  · rintro (h | rfl)
    · exact replaceFrom_of_places_eq (u := []) h
    · exact (replaceFrom_eq_self_iff beginsOnce_filePlaceholder).2 (.inr rfl)

/-- Filling in one name after the other is filling them in at once, unless a placeholder comes into
being on the way. -/
theorem fill_eq_fillAtOnce_iff (template dir file : String) :
    fill template dir file = fillAtOnce template dir file ↔
      NoneArises template dir ∨ file = filePlaceholder := by
  rw [fill, Text.replace, Text.replace, String.toList_ofList, replaceFrom_dirPlaceholder,
    fillAtOnce, String.ofList_inj, replaceFrom_eq_fillParts_iff, NoneArises, Text.replace,
    String.toList_ofList, replaceFrom_dirPlaceholder, places_filePlaceholder template.toList,
    String.toList_inj]

theorem places_fillParts_of_plain (hparts : .char '\x7b' ∉ parts) (hdir : '\x7b' ∉ dir) :
    places filePlaceholder.toList (fillParts parts dir filePlaceholder.toList) =
      parts.count .file := by
  induction parts with
  | nil => exact places_nil beginsOnce_filePlaceholder.ne_nil
  | cons part parts ih =>
    rw [List.mem_cons, not_or] at hparts
    rw [fillParts_cons]
    cases part with
    | file =>
      rw [TemplatePart.fill, places_append beginsOnce_filePlaceholder, ih hparts.2,
        List.count_cons_self]
    | dir =>
      rw [List.count_cons_of_ne (by simp), ← ih hparts.2]
      exact places_append_of_not_mem hdir
    | char c =>
      have hc : '\x7b' ∉ [c] := fun hc => hparts.1 (congrArg _ (List.mem_singleton.1 hc))
      rw [List.count_cons_of_ne (by simp), ← ih hparts.2]
      exact places_append_of_not_mem hc

/-- None comes into being where every opening brace of the template begins a placeholder, and there
is none in the name. -/
theorem noneArises_of_plain {template dir : String}
    (htemplate : .char '\x7b' ∉ templateParts template.toList) (hdir : '\x7b' ∉ dir.toList) :
    NoneArises template dir := by
  rw [NoneArises, Text.replace, String.toList_ofList, replaceFrom_dirPlaceholder,
    places_filePlaceholder template.toList]
  exact places_fillParts_of_plain htemplate hdir

/-! ## Descriptors -/

/-- The name and the version of a descriptor are the templates of the rule with the names of the
directory and the file in the places of their placeholders exactly when the directory's name brings
no placeholder into being, or the file is called like one. -/
theorem contribute_fills_at_once (r : Rule) (q : Inquiry) (ds : List Descriptor)
    (hok : r.contribute q = .ok ds) :
    let dir := Path.dirName q.path
    let file := Path.fileName q.path
    ∃ d, ds = [d] ∧
      (d.name = fillAtOnce r.component dir file ↔
        NoneArises r.component dir ∨ file = filePlaceholder) ∧
      (d.version = fillAtOnce r.version dir file ↔
        NoneArises r.version dir ∨ file = filePlaceholder) := by
  obtain ⟨-, -, rfl⟩ := contribute_eq_ok_iff.1 hok
  exact ⟨_, rfl, fill_eq_fillAtOnce_iff _ _ _, fill_eq_fillAtOnce_iff _ _ _⟩

/-- A directory that is called like its own placeholder, and a plain one. -/
theorem contribute_fills_at_once_braces :
    let r : Rule :=
      { id := "lib", suffixes := [".json"], component := "\x7bfile\x7d@\x7bdir\x7d"
        version := "\x7bdir\x7d" }
    let braced : Inquiry := ⟨"src/\x7bdir\x7d/p.json", "H", { baseDir := "/scan" }⟩
    let plain : Inquiry := ⟨"lib/p.json", "H", { baseDir := "/scan" }⟩
    (∃ d, r.contribute braced = .ok [d] ∧
      d.name = fillAtOnce r.component "\x7bdir\x7d" "p.json" ∧ d.name = "p.json@\x7bdir\x7d") ∧
    ∃ d, r.contribute plain = .ok [d] ∧
      d.version = fillAtOnce r.version "lib" "p.json" ∧ d.version = "lib" := by
  intro r braced plain
  have hbraced : r.contribute braced = .ok [r.descriptorOf braced] := by decide +kernel
  have hplain : r.contribute plain = .ok [r.descriptorOf plain] := by decide +kernel
  have hdir : Path.dirName braced.path = "\x7bdir\x7d" := by decide +kernel
  have hdir' : Path.dirName plain.path = "lib" := by decide +kernel
  have hfile : Path.fileName braced.path = "p.json" := by decide +kernel
  have hfile' : Path.fileName plain.path = "p.json" := by decide +kernel
  obtain ⟨d, hd, hname, -⟩ := contribute_fills_at_once r braced _ hbraced
  obtain ⟨e, he, -, hversion⟩ := contribute_fills_at_once r plain _ hplain
  obtain rfl := List.singleton_inj.1 hd
  obtain rfl := List.singleton_inj.1 he
  rw [hdir, hfile] at hname
  rw [hdir', hfile'] at hversion
  exact ⟨⟨_, hbraced, hname.2 (.inl (by decide +kernel)), by decide +kernel⟩,
    _, hplain, hversion.2 (.inl (noneArises_of_plain (by decide) (by decide))), by decide +kernel⟩

/-- A rule that passes validation, and two directories whose files get into the name of the
component although its template does not ask for them: one called like the placeholder, and one that
completes it. -/
theorem contribute_fills_again :
    let r (component : String) : Rule :=
      { id := "lib", suffixes := [".json"], component, version := "1" }
    let fillsAgain (component path once again : String) : Prop :=
      (r component).validate = .ok () ∧ Path.normalize path = path ∧
      fillAtOnce component (Path.dirName path) (Path.fileName path) = once ∧
      ∃ d, (r component).contribute ⟨path, "H", { baseDir := "/scan" }⟩ = .ok [d] ∧ d.name = again
    fillsAgain "\x7bdir\x7d" "\x7bfile\x7d/p.json" "\x7bfile\x7d" "p.json" ∧
      fillsAgain "\x7b\x7bdir\x7d" "file\x7d/p.json" "\x7bfile\x7d" "p.json" := by
  intro r fillsAgain
  let q (path : String) : Inquiry := ⟨path, "H", { baseDir := "/scan" }⟩
  exact ⟨⟨by decide +kernel, by decide +kernel, by decide +kernel,
      (r "\x7bdir\x7d").descriptorOf (q "\x7bfile\x7d/p.json"), by decide +kernel,
      by decide +kernel⟩,
    by decide +kernel, by decide +kernel, by decide +kernel,
    (r "\x7b\x7bdir\x7d").descriptorOf (q "file\x7d/p.json"), by decide +kernel,
    by decide +kernel⟩

end Rule

end ComponentScan
