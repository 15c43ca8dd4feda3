import Screener.Display.Styled

namespace Screener

namespace Display

def markedStyles : List Text := ["red", "green", "yellow", "cyan", "bold"]

def styleMarks : List Text :=
  markedStyles.flatMap fun style => ["[" ++ style ++ "]", "[/" ++ style ++ "]"]

def unmarkedAfter : Nat → Text → Text
  | _, [] => []
  | skip + 1, _ :: rest => unmarkedAfter skip rest
  | 0, c :: rest =>
    match styleMarks.find? (·.isPrefixOf (c :: rest)) with
    | some mark => unmarkedAfter (mark.length - 1) rest
    | none => c :: unmarkedAfter 0 rest

def unmarked (text : Text) : Text := unmarkedAfter 0 text

def plainCell : Cell → Text
  | .plain text => text
  | .styled text => text.text

def pad (justify : Justify) (width : Nat) (text : Text) : Text :=
  let filling := List.replicate (width - text.length) ' '
  match justify with
  | .left => text ++ filling
  | .right => filling ++ text

def tableLines (table : Table) : List Text :=
  let cells := table.columns.map Column.header :: table.rows.map (·.map plainCell)
  let widths := (List.range table.columns.length).map fun i =>
    (cells.map fun row => (row[i]?.getD []).length).foldl max 0
  let line (row : List Text) : Text :=
    Text.join "  " ((table.columns.zip (widths.zip row)).map fun (column, width, text) =>
      pad column.justify width text)
  table.title :: cells.map line

def outputLines : Output → List Text
  | .markup text => [unmarked text]
  | .text text => [text.text]
  | .table table => tableLines table
  | .panel title body => [unmarked title, body.text]

def plainText (outputs : List Output) : Text :=
  (Text.join " " (outputs.map fun output => Text.join "\n" (outputLines output))) ++ "\n"

end Display

end Screener
