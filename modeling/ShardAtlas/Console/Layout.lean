import ShardAtlas.Console.Screen

namespace ShardAtlas.Console

/-!
# Laying out what is printed

A plain terminal shows no styles: tags are left out, and the columns of a table
are padded with blanks.
-/

/--
Leave out the tags of a text.

A backslash in front of a bracket keeps the bracket and is left out itself.
-/
def withoutTags :
    List Char →
    List Char
  | [] =>
      []
  | '\\' :: '[' :: rest =>
      '[' :: withoutTags rest
  | '[' :: rest =>
      if isTag rest then
        dropTag rest
      else
        '[' :: withoutTags rest
  | char :: rest =>
      char :: withoutTags rest
where
  /-- Go on behind the end of a tag. -/
  dropTag :
    List Char →
    List Char
  | [] =>
      []
  | ']' :: rest =>
      withoutTags rest
  | _ :: rest =>
      dropTag rest

/-- A text as a plain terminal shows it. -/
def plain
    (markup : String) :
    String :=
  String.ofList (withoutTags markup.toList)

/-- A text with blanks up to a width. -/
def padded
    (width : Nat)
    (text : String) :
    String :=
  text ++ String.ofList (List.replicate (width - text.length) ' ')

/-- The widths of columns that hold all rows. -/
def columnWidths
    (rows : List (List String)) :
    List Nat :=
  rows.foldr
    (fun row widths =>
      (List.range (max row.length widths.length)).map fun column =>
        max ((row.getD column "").length) (widths.getD column 0))
    []

/-- The lines that a plain terminal shows. -/
def Printed.lines :
    Printed →
    List String
  | .line markup =>
      [plain markup]
  | .table content =>
      let rows := (content.columns :: content.rows).map (·.map plain)
      let widths := columnWidths rows
      content.title ::
        rows.map fun row =>
          "  ".intercalate (List.zipWith padded widths row)

end ShardAtlas.Console
