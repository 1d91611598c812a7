/-
What a page of metrics says, and that no name can change it.

Names come from request paths, so a name may hold markup, entities, line ends or a piece of the page
itself. The page is read here as any page is: it falls into tags and the text between them, and the
tags make tables, rows and cells (`tables`). Since a name is written without a character that opens
a tag (`Clean`), what is read is one row a metric (`tables_render`), and a name is had back from its cell
(`unescape_escape`). So the page determines what it shows (`page_shows`).
-/
import Telemetry.Proofs.Number.Plain
import Telemetry.Service.Page

namespace Telemetry

namespace Text.Markup

/-- The five characters that mean something on a page, with the entities that stand for them. -/
def entities : List (Char × String) :=
  [('&', "&amp;"), ('<', "&lt;"), ('>', "&gt;"), ('"', "&quot;"), ('\'', "&#39;")]

/-- An escaped text: nothing in it opens or closes a tag or an attribute, and every ampersand is the start
of an entity. -/
structure Clean (cs : List Char) : Prop where
  unmarked : ∀ c ∈ cs, c ≠ '<' ∧ c ≠ '>' ∧ c ≠ '"' ∧ c ≠ '\''
  entity : ∀ before after, cs = before ++ '&' :: after → ∃ e ∈ entities, e.2.toList <+: '&' :: after

/-- The text with each entity replaced by what it stands for. -/
def unescapeChars : List Char → List Char
  | '&' :: 'a' :: 'm' :: 'p' :: ';' :: cs => '&' :: unescapeChars cs
  | '&' :: 'l' :: 't' :: ';' :: cs => '<' :: unescapeChars cs
  | '&' :: 'g' :: 't' :: ';' :: cs => '>' :: unescapeChars cs
  | '&' :: 'q' :: 'u' :: 'o' :: 't' :: ';' :: cs => '"' :: unescapeChars cs
  | '&' :: '#' :: '3' :: '9' :: ';' :: cs => '\'' :: unescapeChars cs
  | c :: cs => c :: unescapeChars cs
  | [] => []

def unescape (s : String) : String :=
  String.ofList (unescapeChars s.toList)

/-- A character is written as its entity, or as itself if it has none. -/
theorem escapeChar_cases (c : Char) :
    (∃ e, (c, e) ∈ entities ∧ escapeChar c = e.toList) ∨
      c ∉ entities.map Prod.fst ∧ escapeChar c = [c] := by
  unfold escapeChar
  split
  · rename_i amp
    exact .inl ⟨"&amp;", by simp [amp, entities], rfl⟩
  · split
    · rename_i lt
      exact .inl ⟨"&lt;", by simp [lt, entities], rfl⟩
    · split
      · rename_i gt
        exact .inl ⟨"&gt;", by simp [gt, entities], rfl⟩
      · split
        · rename_i quot
          exact .inl ⟨"&quot;", by simp [quot, entities], rfl⟩
        · split
          · rename_i apos
            exact .inl ⟨"&#39;", by simp [apos, entities], rfl⟩
          · refine .inr ⟨?_, rfl⟩
            simp_all [entities]

theorem unescapeChars_entity : ∀ e ∈ entities, ∀ cs,
    unescapeChars (e.2.toList ++ cs) = e.1 :: unescapeChars cs := by
  simp [entities, unescapeChars]

theorem unescapeChars_cons {c : Char} (other : c ≠ '&') (cs : List Char) :
    unescapeChars (c :: cs) = c :: unescapeChars cs := by
  rw [unescapeChars.eq_def]
  split <;> simp_all

theorem unescapeChars_escapeChar (c : Char) (cs : List Char) :
    unescapeChars (escapeChar c ++ cs) = c :: unescapeChars cs := by
  obtain ⟨e, mem, eq⟩ | ⟨none, eq⟩ := escapeChar_cases c
  · rw [eq]
    exact unescapeChars_entity _ mem cs
  · rw [eq]
    exact unescapeChars_cons (by rintro rfl; exact none (by decide)) cs

theorem unescape_escape (s : String) : unescape (escape s) = s := by
  have undone (cs : List Char) : unescapeChars (cs.flatMap escapeChar) = cs := by
    induction cs with
    | nil => rfl
    | cons c cs ih => rw [List.flatMap_cons, unescapeChars_escapeChar, ih]
  rw [unescape, escape, String.toList_ofList, undone, String.ofList_toList]

theorem escapeChar_unmarked {c d : Char} (mem : d ∈ escapeChar c) :
    d ≠ '<' ∧ d ≠ '>' ∧ d ≠ '"' ∧ d ≠ '\'' := by
  obtain ⟨e, known, eq⟩ | ⟨none, eq⟩ := escapeChar_cases c
  · have table : ∀ e ∈ entities, ∀ d ∈ e.2.toList, d ≠ '<' ∧ d ≠ '>' ∧ d ≠ '"' ∧ d ≠ '\'' := by
      simp [entities]
    exact table _ known d (eq ▸ mem)
  · rw [eq, List.mem_singleton] at mem
    subst mem
    refine ⟨?_, ?_, ?_, ?_⟩ <;>
    · rintro rfl
      exact none (by decide)

/-- An ampersand in what is written for one character begins it, and is an entity's. -/
theorem escapeChar_ampersand {c : Char} {before after : List Char}
    (eq : escapeChar c = before ++ '&' :: after) : ∃ e ∈ entities, e.2.toList = '&' :: after := by
  obtain ⟨e, known, same⟩ | ⟨none, same⟩ := escapeChar_cases c
  · have table : ∀ e ∈ entities, '&' ∉ e.2.toList.tail := by simp [entities]
    refine ⟨_, known, ?_⟩
    cases before with
    | nil => exact same.symm.trans eq
    | cons d before =>
      refine absurd ?_ (table _ known)
      simp [← same, eq]
  · rw [same] at eq
    cases before with
    | nil =>
      obtain ⟨rfl, -⟩ := List.cons.inj eq
      exact absurd (by decide) none
    | cons d before => simp at eq

theorem clean_escape (s : String) : Clean (escape s).toList := by
  rw [escape, String.toList_ofList]
  constructor
  · intro d mem
    obtain ⟨c, -, mem⟩ := List.mem_flatMap.1 mem
    exact escapeChar_unmarked mem
  · induction s.toList with
    | nil =>
      intro before after eq
      simp at eq
    | cons c cs ih =>
      intro before after eq
      rw [List.flatMap_cons, List.append_eq_append_iff] at eq
      -- An ampersand in what follows is the rest's; one in what this character is written as opens an entity.
      obtain ⟨more, -, rest⟩ | ⟨more, eq, rest⟩ := eq
      · exact ih more after rest
      · cases more with
        | nil => exact ih [] after rest.symm
        | cons d more =>
          obtain ⟨rfl, rfl⟩ := List.cons.inj rest
          obtain ⟨e, mem, entity⟩ := escapeChar_ampersand eq
          exact ⟨e, mem, by simp [entity]⟩

end Text.Markup

namespace Service.Page

open Text.Markup

/-! ## Reading a page -/

/-- A piece of a page: what stands between two angle brackets, or a text before, between or after tags. -/
inductive Piece where
  | tag (cs : List Char)
  | text (cs : List Char)
  deriving DecidableEq

/-- The pieces of the rest of a page, within a tag or outside, where the current piece has begun with the
characters `begun`, the last one first. -/
def piecesFrom : Bool → List Char → List Char → List Piece
  | false, begun, [] => [.text begun.reverse]
  | true, begun, [] => [.tag begun.reverse]
  | false, begun, '<' :: cs => .text begun.reverse :: piecesFrom true [] cs
  | true, begun, '>' :: cs => .tag begun.reverse :: piecesFrom false [] cs
  | inside, begun, c :: cs => piecesFrom inside (c :: begun) cs

/-- What tags can enclose, as far as tables are concerned. -/
inductive Part where
  | cell
  | row
  | table
  deriving DecidableEq

namespace Part

def name : Part → List Char
  | .cell => ['t', 'd']
  | .row => ['t', 'r']
  | .table => ['t', 'a', 'b', 'l', 'e']

def ofName? (cs : List Char) : Option Part :=
  [cell, row, table].find? fun p => p.name = cs

end Part

/-- What a tag does, as far as tables are concerned. -/
inductive Mark where
  | begins (p : Part)
  | ends (p : Part)
  | nothing
  deriving DecidableEq

/-- A tag has a name, which ends at a blank, in small letters or capitals. -/
def mark (cs : List Char) : Mark :=
  match (cs.takeWhile (!Text.isBlank ·)).map Char.toLower with
  | '/' :: name => ((Part.ofName? name).map .ends).getD .nothing
  | name => ((Part.ofName? name).map .begins).getD .nothing

/-- What was read of a page from its end: the text before the next tag, the cells of the row that is
open, the rows of the table that is open, and the tables. -/
structure Reading where
  text : List Char
  cells : List String
  rows : List (List String)
  tables : List (List (List String))

namespace Reading

def blank : Reading :=
  ⟨[], [], [], []⟩

/-- A part begins to the left of what was read, so it is complete. -/
def begins (r : Reading) : Part → Reading
  | .cell => { r with cells := String.ofList r.text :: r.cells }
  | .row => { r with rows := r.cells :: r.rows }
  | .table => { r with tables := r.rows :: r.tables }

def ends (r : Reading) : Part → Reading
  | .cell => { r with text := [] }
  | .row => { r with cells := [] }
  | .table => { r with rows := [] }

/-- One piece more, to the left of what was read. -/
def add (r : Reading) : Piece → Reading
  | .text cs => { r with text := cs ++ r.text }
  | .tag cs =>
    match mark cs with
    | .begins p => r.begins p
    | .ends p => r.ends p
    | .nothing => r

@[simp] theorem add_text (r : Reading) (cs : List Char) :
    r.add (.text cs) = { r with text := cs ++ r.text } := rfl

@[simp] theorem add_begin (r : Reading) (p : Part) : r.add (.tag p.name) = r.begins p := by
  cases p <;> rfl

@[simp] theorem add_end (r : Reading) (p : Part) : r.add (.tag ('/' :: p.name)) = r.ends p := by
  cases p <;> rfl

end Reading

def read (cs : List Char) : Reading :=
  (piecesFrom false [] cs).foldr (fun p r => r.add p) .blank

/-- The tables of a page, each with its rows, each with what is in its cells. -/
def tables (page : String) : List (List (List String)) :=
  (read page.toList).tables

theorem piecesFrom_cons_text {c : Char} (closed : c ≠ '<') (begun cs : List Char) :
    piecesFrom false begun (c :: cs) = piecesFrom false (c :: begun) cs := by
  simp [piecesFrom, closed]

theorem piecesFrom_cons_tag {c : Char} (closed : c ≠ '>') (begun cs : List Char) :
    piecesFrom true begun (c :: cs) = piecesFrom true (c :: begun) cs := by
  simp [piecesFrom, closed]

/-- Outside of tags, what has begun goes into the first piece, and only there. -/
theorem piecesFrom_begun (cs : List Char) :
    ∃ t ps, ∀ begun, piecesFrom false begun cs = .text (begun.reverse ++ t) :: ps := by
  induction cs with
  | nil => exact ⟨[], [], fun begun => by simp [piecesFrom]⟩
  | cons c cs ih =>
    by_cases opens : c = '<'
    · subst opens
      exact ⟨[], piecesFrom true [] cs, fun begun => by simp [piecesFrom]⟩
    · obtain ⟨t, ps, eq⟩ := ih
      refine ⟨c :: t, ps, fun begun => ?_⟩
      rw [piecesFrom_cons_text opens, eq, List.reverse_cons, List.append_assoc]
      rfl

theorem piecesFrom_text {cs : List Char} (closed : '<' ∉ cs) (begun rest : List Char) :
    piecesFrom false begun (cs ++ rest) = piecesFrom false (cs.reverse ++ begun) rest := by
  induction cs generalizing begun with
  | nil => rfl
  | cons c cs ih =>
    rw [List.mem_cons, not_or] at closed
    rw [List.cons_append, piecesFrom_cons_text (Ne.symm closed.1), ih closed.2, List.reverse_cons,
      List.append_assoc]
    rfl

theorem piecesFrom_tag {cs : List Char} (closed : '>' ∉ cs) (begun rest : List Char) :
    piecesFrom true begun (cs ++ '>' :: rest) =
      .tag (begun.reverse ++ cs) :: piecesFrom false [] rest := by
  induction cs generalizing begun with
  | nil => simp [piecesFrom]
  | cons c cs ih =>
    rw [List.mem_cons, not_or] at closed
    rw [List.cons_append, piecesFrom_cons_tag (Ne.symm closed.1), ih closed.2, List.reverse_cons,
      List.append_assoc]
    rfl

theorem read_text {cs : List Char} (closed : '<' ∉ cs) (rest : List Char) :
    read (cs ++ rest) = (read rest).add (.text cs) := by
  obtain ⟨t, ps, eq⟩ := piecesFrom_begun rest
  rw [read, piecesFrom_text closed, eq, read, eq]
  simp

theorem read_tag {cs : List Char} (closed : '>' ∉ cs) (rest : List Char) :
    read ('<' :: cs ++ '>' :: rest) = (read rest).add (.tag cs) := by
  rw [read, List.cons_append, piecesFrom, piecesFrom_tag closed, read]
  rfl

/-! ## The pages that are written -/

namespace Piece

/-- The piece as it stands on a page. -/
def chars : Piece → List Char
  | .tag cs => '<' :: cs ++ ['>']
  | .text cs => cs

/-- The piece ends where it seems to end. -/
def IsClosed : Piece → Bool
  | .tag cs => !cs.contains '>'
  | .text cs => !cs.contains '<'

end Piece

theorem read_pieces (ps : List Piece) (closed : ∀ p ∈ ps, p.IsClosed = true) (rest : List Char) :
    read (ps.flatMap Piece.chars ++ rest) = ps.foldr (fun p r => r.add p) (read rest) := by
  induction ps with
  | nil => rfl
  | cons p ps ih =>
    obtain ⟨first, closed⟩ := List.forall_mem_cons.1 closed
    rw [List.flatMap_cons, List.append_assoc, List.foldr_cons, ← ih closed]
    cases p with
    | tag cs =>
      rw [Piece.chars, List.append_assoc]
      exact read_tag (by simpa [Piece.IsClosed] using first) _
    | text cs =>
      rw [Piece.chars]
      exact read_text (by simpa [Piece.IsClosed] using first) _

def Part.enclose (p : Part) (ps : List Piece) : List Piece :=
  .tag p.name :: ps ++ [.tag ('/' :: p.name)]

/-- The pieces of a row with two cells. -/
def rowPieces (name text : List Char) : List Piece :=
  Part.row.enclose (Part.cell.enclose [.text name] ++ Part.cell.enclose [.text text]) ++ [.text ['\n']]

theorem toList_row (name text : String) :
    (row name text).toList = (rowPieces (escape name).toList text.toList).flatMap Piece.chars := by
  simp [row, rowPieces, Piece.chars, Part.enclose, Part.name]

/-- **One row** is read for one row, whatever the name. -/
theorem read_row {text : String} (name : String) (closed : '<' ∉ text.toList) (rest : List Char) :
    (read ((row name text).toList ++ rest)).rows = [escape name, text] :: (read rest).rows ∧
      (read ((row name text).toList ++ rest)).tables = (read rest).tables := by
  have all : ∀ p ∈ rowPieces (escape name).toList text.toList, p.IsClosed = true := by
    have own : '<' ∉ (escape name).toList := fun mem => ((clean_escape name).unmarked _ mem).1 rfl
    simp [rowPieces, Part.enclose, Part.name, Piece.IsClosed, own, closed]
  rw [toList_row, read_pieces _ all]
  simp [rowPieces, Part.enclose, Reading.begins, Reading.ends]

theorem read_rows {α : Type} (text : α → String) (entries : List (String × α))
    (closed : ∀ e ∈ entries, '<' ∉ (text e.2).toList) (rest : List Char) :
    (read ((rows text entries).toList ++ rest)).rows =
        (entries.map fun e => [escape e.1, text e.2]) ++ (read rest).rows ∧
      (read ((rows text entries).toList ++ rest)).tables = (read rest).tables := by
  induction entries with
  | nil => exact ⟨rfl, rfl⟩
  | cons e entries ih =>
    obtain ⟨first, others⟩ := List.forall_mem_cons.1 closed
    have split : rows text (e :: entries) = row e.1 (text e.2) ++ rows text entries := String.join_cons
    obtain ⟨rows', tables'⟩ := ih others
    obtain ⟨row', same⟩ := read_row e.1 first ((rows text entries).toList ++ rest)
    rw [split, String.toList_append, List.append_assoc, row', same, rows', tables']
    exact ⟨rfl, rfl⟩

/-- A piece that neither begins nor ends a part of a table. -/
def Piece.IsQuiet : Piece → Bool
  | .tag cs => mark cs = .nothing
  | .text _ => true

theorem foldr_quiet {ps : List Piece} (quiet : ∀ p ∈ ps, p.IsQuiet = true) (r : Reading) :
    (ps.foldr (fun p r => r.add p) r).rows = r.rows ∧
      (ps.foldr (fun p r => r.add p) r).tables = r.tables := by
  induction ps with
  | nil => exact ⟨rfl, rfl⟩
  | cons p ps ih =>
    obtain ⟨first, others⟩ := List.forall_mem_cons.1 quiet
    rw [List.foldr_cons]
    cases p with
    | text cs => exact ih others
    | tag cs =>
      have nothing : mark cs = .nothing := of_decide_eq_true first
      rw [Reading.add, nothing]
      exact ih others

/-- The pieces before the first table, between the two, and behind the second. -/
def before : List Piece :=
  [.tag "!DOCTYPE html".toList, .text ['\n'], .tag "html".toList, .tag "head".toList,
    .tag "meta charset=\"utf-8\"".toList, .tag "title".toList, .text "tally".toList,
    .tag "/title".toList, .tag "/head".toList, .tag "body".toList, .text ['\n'],
    .tag "h2".toList, .text "Gauges".toList, .tag "/h2".toList, .text ['\n']]

def between : List Piece :=
  [.text ['\n'], .tag "h2".toList, .text "Counters".toList, .tag "/h2".toList, .text ['\n']]

def behind : List Piece :=
  [.text ['\n'], .tag "/body".toList, .tag "/html".toList, .text ['\n']]

theorem toList_opening : opening.toList =
    (before ++ [Piece.tag Part.table.name, .text ['\n']]).flatMap Piece.chars := by
  decide +kernel

theorem toList_middle : middle.toList = (Piece.tag ('/' :: Part.table.name) :: (between ++
    [Piece.tag Part.table.name, .text ['\n']])).flatMap Piece.chars := by
  decide +kernel

theorem toList_closing : closing.toList =
    (Piece.tag ('/' :: Part.table.name) :: behind).flatMap Piece.chars := by
  decide +kernel

theorem read_opening (rest : List Char) :
    (read (opening.toList ++ rest)).tables = (read rest).rows :: (read rest).tables := by
  rw [toList_opening, read_pieces _ (by decide +kernel), List.foldr_append,
    (foldr_quiet (by decide +kernel) _).2]
  simp [Reading.begins]

theorem read_middle (rest : List Char) : (read (middle.toList ++ rest)).rows = [] ∧
    (read (middle.toList ++ rest)).tables = (read rest).rows :: (read rest).tables := by
  rw [toList_middle, read_pieces _ (by decide +kernel), List.foldr_cons, Reading.add_end,
    List.foldr_append]
  refine ⟨rfl, ?_⟩
  rw [Reading.ends, (foldr_quiet (by decide +kernel) _).2]
  simp [Reading.begins]

theorem read_closing : (read closing.toList).rows = [] ∧ (read closing.toList).tables = [] := by
  have all := read_pieces (Piece.tag ('/' :: Part.table.name) :: behind) (by decide +kernel) []
  rw [← toList_closing, List.append_nil, List.foldr_cons, Reading.add_end] at all
  rw [all]
  exact ⟨rfl, (foldr_quiet (by decide +kernel) _).2⟩

theorem not_mem_plain (x : Binary64) : '<' ∉ x.plain.toList := by
  have sign (negative : Bool) : '<' ∉ Binary64.signChars negative := by
    cases negative <;> decide
  rw [Binary64.plain, String.toList_ofList]
  cases x with
  | finite s m =>
    obtain ⟨whole, fraction, chars, digits, digits', -, -⟩ := m.plainChars_parts
    have behind : '<' ∉ Json.Parts.fractionChars fraction := by
      cases fraction with
      | nil => exact List.not_mem_nil
      | cons d ds => exact List.not_mem_cons_of_ne_of_not_mem (by decide) (digits'.not_mem rfl)
    simp only [Binary64.chars, chars, List.mem_append, not_or]
    exact ⟨sign s, digits.not_mem rfl, behind⟩
  | infinite s => cases s <;> decide
  | nan => decide

/-! ## What a page says -/

/-- A page has two tables: one row a gauge in the first, and one row a counter in the second. -/
theorem tables_render (s : Snapshot) : tables (render s) =
    [s.gauges.entries.map fun e => [escape e.1, e.2.plain],
      s.counters.entries.map fun e => [escape e.1, toString e.2.toInt]] := by
  rw [tables, render]
  simp only [String.toList_append, List.append_assoc]
  obtain ⟨none, nothing⟩ := read_closing
  obtain ⟨counters, one⟩ := read_rows (fun d => toString (Int64.toInt d)) s.counters.entries
    (fun e _ => not_mem_toString_int rfl (by decide) _) closing.toList
  obtain ⟨gap, two⟩ := read_middle
    ((rows (fun d => toString (Int64.toInt d)) s.counters.entries).toList ++ closing.toList)
  obtain ⟨gauges, same⟩ := read_rows Binary64.plain s.gauges.entries (fun e _ => not_mem_plain e.2)
    (middle.toList ++ ((rows (fun d => toString (Int64.toInt d)) s.counters.entries).toList ++ closing.toList))
  rw [read_opening, gauges, same, gap, two, counters, one, none, nothing]
  simp

/-- What a row says: a name, with its entities replaced, and a value. -/
def entryOf (row : List String) : String × String :=
  (unescape (row.headD ""), row.getD 1 "")

/-- What the page of a snapshot shows: names with the texts of their values, gauges and counters apart. -/
def shown (s : Snapshot) : List (String × String) × List (String × String) :=
  (s.gauges.entries.map fun e => (e.1, e.2.plain),
    s.counters.entries.map fun e => (e.1, toString e.2.toInt))

theorem map_entryOf {α : Type} (text : α → String) (entries : List (String × α)) :
    (entries.map fun e => [escape e.1, text e.2]).map entryOf = entries.map fun e => (e.1, text e.2) := by
  rw [List.map_map]
  exact List.map_congr_left fun e _ => Prod.ext (unescape_escape e.1) rfl

theorem names_ascend {α : Type} (text : α → String) (m : NameMap α) :
    ((m.entries.map fun e => [escape e.1, text e.2]).map entryOf).Pairwise fun a b => a.1 < b.1 := by
  rw [map_entryOf, List.pairwise_map]
  exact m.sorted

/-- **No name alters the page.** A page is read as one row a gauge in its first table and one row a
counter in its second, each with the name, escaped, and the value; in each table the names ascend. An escaped
name has no character that means something on a page but ampersands that start entities, and is
the name again when these are replaced. So equal pages show the same. -/
theorem page_shows (s : Snapshot) :
    tables (render s) =
        [s.gauges.entries.map fun e => [escape e.1, e.2.plain],
          s.counters.entries.map fun e => [escape e.1, toString e.2.toInt]] ∧
      (∀ table ∈ tables (render s), (table.map entryOf).Pairwise fun a b => a.1 < b.1) ∧
      (∀ name, Clean (escape name).toList ∧ unescape (escape name) = name) ∧
      ∀ t, render s = render t → shown s = shown t := by
  refine ⟨tables_render s, ?_, fun name => ⟨clean_escape name, unescape_escape name⟩, fun t same => ?_⟩
  · rw [tables_render]
    refine List.forall_mem_cons.2 ⟨names_ascend Binary64.plain s.gauges, ?_⟩
    exact List.forall_mem_singleton.2 (names_ascend (fun d => toString (Int64.toInt d)) s.counters)
  · have read := congrArg tables same
    rw [tables_render, tables_render] at read
    obtain ⟨gauges, counters⟩ := List.cons.inj read
    have gauges := congrArg (List.map entryOf) gauges
    have counters := congrArg (List.map entryOf) (List.cons.inj counters).1
    rw [map_entryOf Binary64.plain, map_entryOf Binary64.plain] at gauges
    rw [map_entryOf fun d => toString (Int64.toInt d), map_entryOf fun d => toString (Int64.toInt d)]
      at counters
    exact Prod.ext gauges counters

/-- A page with names that are markup, an entity and a quotation mark, of one snapshot made in two ways. -/
theorem page_shows_markup :
    let s : Snapshot :=
      ⟨NameMap.empty.insert "\"" .nan, (NameMap.empty.insert "</td><tr>" 1).insert "&lt;" 2⟩
    let t : Snapshot :=
      ⟨NameMap.empty.insert "\"" .nan, (NameMap.empty.insert "&lt;" 2).insert "</td><tr>" 1⟩
    tables (render s) =
        [[["&quot;", "NaN"]], [["&amp;lt;", "2"], ["&lt;/td&gt;&lt;tr&gt;", "1"]]] ∧
      render s = render t ∧ shown s = shown t := by
  intro s t
  have same : render s = render t := by decide +kernel
  obtain ⟨page, -, -, back⟩ := page_shows s
  exact ⟨page.trans (by decide +kernel), same, back t same⟩

end Service.Page

end Telemetry
