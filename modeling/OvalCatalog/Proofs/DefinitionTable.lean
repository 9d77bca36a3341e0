import OvalCatalog.Proofs.Grid.Layout
import OvalCatalog.Report.Markdown

/-! The table of the definitions that a lookup found. It has one line for each definition and five cells in the line,
but the cells are the texts of the definition only where the grid takes no column for one of real numbers. -/

namespace OvalCatalog.Report

theorem mapM_eq_some_map {α β : Type} {f : α → Option β} {g : α → β} {l : List α} (h : ∀ a ∈ l, f a = some (g a)) :
    l.mapM f = some (l.map g) := by
  induction l with
  | nil => rfl
  | cons a l ih =>
    rw [List.forall_mem_cons] at h
    rw [List.mapM_cons, h.1, ih h.2]
    rfl

def PlainText (s : Option String) : Prop :=
  ∃ t, s = some t ∧ Grid.Flat t.toList ∧ '\x01' ∉ t.toList

instance : (s : Option String) → Decidable (PlainText s)
  | none => .isFalse nofun
  | some t => decidable_of_iff (Grid.Flat t.toList ∧ '\x01' ∉ t.toList) (by simp [PlainText])

structure Plain (d : Definition) : Prop where
  definitionId : PlainText d.definitionId
  title : PlainText d.title
  severity : PlainText d.severity
  cves : ∀ c ∈ d.cveIds, PlainText c
  packages : ∀ p ∈ d.packages, PlainText p.name ∧ PlainText p.version

instance (d : Definition) : Decidable (Plain d) :=
  decidable_of_iff (PlainText d.definitionId ∧ PlainText d.title ∧ PlainText d.severity ∧
      (∀ c ∈ d.cveIds, PlainText c) ∧ ∀ p ∈ d.packages, PlainText p.name ∧ PlainText p.version)
    ⟨fun ⟨h₁, h₂, h₃, h₄, h₅⟩ => ⟨h₁, h₂, h₃, h₄, h₅⟩, fun ⟨h₁, h₂, h₃, h₄, h₅⟩ => ⟨h₁, h₂, h₃, h₄, h₅⟩⟩

def shown : List (String × (Definition → String)) :=
  [("Definition", fun d => d.definitionId.getD ""), ("Title", fun d => d.title.getD ""),
    ("Severity", fun d => d.severity.getD ""),
    ("CVEs", fun d => String.intercalate ", " (d.cveIds.map (·.getD ""))),
    ("Packages", fun d => String.intercalate ", "
      (d.packages.map fun p => Text.strip (p.name.getD "" ++ " " ++ p.version.getD "")))]

/-- The table has, after its headers and the rule, one line for each definition, and the cells of the line are the
texts of the definition, but for the blanks around them. -/
def ShowsStored (definitions : List Definition) : Prop :=
  ∃ table header rule rows, definitionTable? definitions = some table ∧
    Text.splitOn (· == '\n') table.toList = header :: rule :: rows ∧
      rows.map Grid.cells = definitions.map fun d => shown.map fun f => Text.trim (f.2 d).toList

def shownFields : List (String × (Definition → Grid.Cell)) :=
  shown.map fun f => (f.1, fun d => some (f.2 d))

section Plain

variable {d : Definition}

theorem PlainText.flat {s : Option String} (h : PlainText s) : Grid.Flat (s.getD "").toList := by
  obtain ⟨t, rfl, hflat, -⟩ := h
  exact hflat

theorem PlainText.trim_ne {s : Option String} (h : PlainText s) : Text.trim (s.getD "").toList ≠ ['\x01'] := by
  obtain ⟨t, rfl, -, hmark⟩ := h
  intro he
  exact hmark (Text.mem_of_mem_trim (he ▸ List.mem_singleton_self _))

theorem flat_joined {texts : List String} (h : ∀ s ∈ texts, Grid.Flat s.toList) :
    Grid.Flat (String.intercalate ", " texts).toList := by
  have hcomma : Grid.Flat ", ".toList := by decide
  intro c hc
  rcases Text.mem_toList_intercalate hc with hc | ⟨s, hs, hc⟩
  · exact hcomma c hc
  · exact h s hs c hc

theorem Plain.flat (h : Plain d) : ∀ f ∈ shown, Grid.Flat (f.2 d).toList := by
  have hpackages : ∀ p ∈ d.packages, Grid.Flat (Text.strip (p.name.getD "" ++ " " ++ p.version.getD "")).toList := by
    intro p hp
    have hblank : Grid.Flat " ".toList := Grid.flat_blanks 1
    rw [Text.strip, String.toList_ofList, String.toList_append, String.toList_append]
    exact (((h.packages p hp).1.flat.append hblank).append (h.packages p hp).2.flat).trim
  simp only [shown, List.forall_mem_cons]
  refine ⟨h.definitionId.flat, h.title.flat, h.severity.flat, flat_joined ?_, flat_joined ?_, by simp⟩
  · rw [List.forall_mem_map]
    exact fun c hc => (h.cves c hc).flat
  · rw [List.forall_mem_map]
    exact hpackages

theorem Plain.definitionRow?_eq (h : Plain d) : definitionRow? d = some (Grid.rowOf shownFields d) := by
  have given {s : Option String} (hs : PlainText s) (default : String) : s = some (s.getD default) := by
    obtain ⟨t, rfl, -⟩ := hs
    rfl
  have hcves : d.cveIds.mapM id = some (d.cveIds.map (·.getD "")) :=
    mapM_eq_some_map fun c hc => given (h.cves c hc) ""
  have hpackages : d.packages.map packageText =
      d.packages.map fun p => Text.strip (p.name.getD "" ++ " " ++ p.version.getD "") := by
    refine List.map_congr_left fun p hp => ?_
    obtain ⟨⟨name, hname, -⟩, ⟨version, hversion, -⟩⟩ := h.packages p hp
    rw [packageText, hname, hversion]
    rfl
  rw [definitionRow?, hcves, hpackages, given h.definitionId "", given h.title "", given h.severity ""]
  rfl

theorem Plain.isRule_eq_false (h : Plain d) : Grid.isRule (Grid.rowOf shownFields d) = false := by
  change List.any [some (d.definitionId.getD ""), some (d.title.getD "")] _ = false
  simp [h.definitionId.trim_ne, h.title.trim_ne]

end Plain

/-- Some text or header has an escape sequence; numbers are then looked for in what is visible of a text. -/
def hasEscapes (definitions : List Definition) : Bool :=
  (Grid.styleOf (shownFields.map (·.1)) (definitions.map (Grid.rowOf shownFields))).escapes

def printedCell (definitions : List Definition) (f : Definition → String) (d : Definition) : List Char :=
  Text.trim (Grid.printed (hasEscapes definitions) (Grid.columnType (definitions.map fun d => some (f d))) (some (f d)))

section Table

variable {definitions : List Definition}

theorem definitionTable?_of_plain (hplain : ∀ d ∈ definitions, Plain d) : definitionTable? definitions =
    some (Grid.render (shownFields.map (·.1)) (definitions.map (Grid.rowOf shownFields))) := by
  rw [definitionTable?, mapM_eq_some_map fun d hd => (hplain d hd).definitionRow?_eq]
  rfl

theorem lines_definitionTable (hplain : ∀ d ∈ definitions, Plain d) :
    ∃ table header rule rows, definitionTable? definitions = some table ∧
      Text.splitOn (· == '\n') table.toList = header :: rule :: rows ∧
        Grid.cells header = shown.map (fun f => f.1.toList) ∧ (∀ c ∈ rule, c = '|' ∨ c = '-') ∧
          rows.map Grid.cells = definitions.map fun d => shown.map fun f => printedCell definitions f.2 d := by
  have hheaders : ∀ h ∈ shownFields.map (·.1), Grid.Flat h.toList := by decide
  have hcells : ∀ d ∈ definitions, ∀ f ∈ shownFields, Grid.Flat ((f.2 d).getD "").toList := by
    intro d hd
    rw [shownFields, List.forall_mem_map]
    exact (hplain d hd).flat
  obtain ⟨header, rule, rows, hlines, hheader, hrule, hrows⟩ := Grid.lines_render (by decide)
    hheaders hcells fun d hd => (hplain d hd).isRule_eq_false
  exact ⟨_, header, rule, rows, definitionTable?_of_plain hplain, hlines, hheader, hrule, hrows⟩

theorem hasEscapes_eq_false (hmark : ∀ d ∈ definitions, ∀ f ∈ shown, Text.Escape.mark ∉ (f.2 d).toList) :
    hasEscapes definitions = false := by
  have hheaders : ∀ h ∈ shownFields.map (·.1), Text.Escape.mark ∉ h.toList := by decide
  refine Grid.escapes_eq_false hheaders fun d hd => ?_
  rw [shownFields, List.forall_mem_map]
  exact hmark d hd

theorem showsStored_iff_printedCell (hplain : ∀ d ∈ definitions, Plain d) : ShowsStored definitions ↔
    ∀ d ∈ definitions, ∀ f ∈ shown, printedCell definitions f.2 d = Text.trim (f.2 d).toList := by
  obtain ⟨table, header, rule, rows, htable, hlines, -, -, hrows⟩ := lines_definitionTable hplain
  simp only [← List.map_eq_map_iff, ← hrows]
  constructor
  · rintro ⟨table', header', rule', rows', htable', hlines', hrows'⟩
    cases htable.symm.trans htable'
    cases hlines.symm.trans hlines'
    exact hrows'
  · intro hrows'
    exact ⟨table, header, rule, rows, htable, hlines, hrows'⟩

theorem printedCell_eq_iff (hmark : ∀ d ∈ definitions, ∀ f ∈ shown, Text.Escape.mark ∉ (f.2 d).toList)
    {f : String × (Definition → String)} (hf : f ∈ shown) :
    (∀ d ∈ definitions, printedCell definitions f.2 d = Text.trim (f.2 d).toList) ↔
      Grid.Faithful (definitions.map f.2) := by
  have htexts : ∀ s ∈ definitions.map f.2, Text.Escape.mark ∉ s.toList :=
    List.forall_mem_map.mpr fun d hd => hmark d hd f hf
  rw [← Grid.trim_printed_iff htexts, List.forall_mem_map, List.map_map]
  unfold printedCell
  rw [hasEscapes_eq_false hmark]
  rfl

/-- The table of plain definitions has one line of five cells for each of them, and shows what was stored just if no
cell is printed as another text. Where no text has an escape sequence that is to say: no column is made of numbers,
with a real one among them, of which one is not written as the grid writes numbers. -/
theorem showsStored_iff (hplain : ∀ d ∈ definitions, Plain d) :
    (∃ table header rule rows, definitionTable? definitions = some table ∧
      Text.splitOn (· == '\n') table.toList = header :: rule :: rows ∧
        Grid.cells header = shown.map (fun f => f.1.toList) ∧ (∀ c ∈ rule, c = '|' ∨ c = '-') ∧
          rows.map Grid.cells = definitions.map fun d => shown.map fun f => printedCell definitions f.2 d) ∧
      (ShowsStored definitions ↔
        ∀ d ∈ definitions, ∀ f ∈ shown, printedCell definitions f.2 d = Text.trim (f.2 d).toList) ∧
      ((∀ d ∈ definitions, ∀ f ∈ shown, Text.Escape.mark ∉ (f.2 d).toList) →
        (ShowsStored definitions ↔ ∀ f ∈ shown, Grid.Faithful (definitions.map f.2))) := by
  refine ⟨lines_definitionTable hplain, showsStored_iff_printedCell hplain, fun hmark => ?_⟩
  rw [showsStored_iff_printedCell hplain, forall₂_comm]
  exact forall₂_congr fun f hf => printedCell_eq_iff hmark hf

end Table

def highRated : Definition where
  definitionId := some "oval:def:1"
  title := some "CVE-2099-0001"
  severity := some "High"
  packages := [⟨some "libfoo", some "1.2.3-4.1", some false, none⟩]

theorem showsStored_highRated : (∀ d ∈ [highRated], Plain d) ∧ ShowsStored [highRated] := by
  have hplain : ∀ d ∈ [highRated], Plain d := by decide
  refine ⟨hplain, ((showsStored_iff hplain).2.2 (by decide)).mpr fun f hf htext hreal => ?_⟩
  have hnumbers : ∀ f ∈ shown, ¬((∀ s ∈ [highRated].map f.2, Grid.cellType (some s) ≠ .text) ∧
      ∃ s ∈ [highRated].map f.2, Grid.cellType (some s) = .real) := by
    decide +kernel
  exact absurd ⟨htext, hreal⟩ (hnumbers f hf)

def zeroRated : Definition where
  definitionId := some "oval:def:1"
  title := some "CVE-2099-0001"
  severity := some "0.0"

theorem severity_rewritten : (∀ d ∈ [zeroRated], Plain d) ∧ ¬ShowsStored [zeroRated] := by
  refine ⟨by decide, ?_⟩
  rintro ⟨table, header, rule, rows, htable, hlines, hrows⟩
  have hcells : (definitionTable? [zeroRated]).map (fun t => ((Text.splitOn (· == '\n') t.toList).drop 2).map Grid.cells) =
      some ([zeroRated].map fun d => shown.map fun f => Text.trim (f.2 d).toList) := by
    rw [htable, Option.map_some, hlines, ← hrows]
    rfl
  exact absurd hcells (by decide +kernel)

end OvalCatalog.Report
