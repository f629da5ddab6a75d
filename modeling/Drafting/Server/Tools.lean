import Drafting.Server.Schema

/-!
# The tools the server offers

Each tool has a name, a description and the schema of its arguments.  The
drawing tools take points as arrays of two or three numbers, an optional
layer name and an optional colour index; `process_command` takes a sentence.
-/

namespace Drafting

/-- A tool as clients see it. -/
structure Tool where
  name : String
  description : String
  inputSchema : Schema

/-- The tool as the object clients read. -/
def Tool.toValue (t : Tool) : Value :=
  .dict [("name", .str t.name), ("description", .str t.description), ("inputSchema", t.inputSchema.toValue)]

open Schema

/-- A list of points of two or three numbers, at least `n` of them. -/
def pointList (n : Nat) (description : String) : Schema :=
  .node .array (some (.node .array (some (plain .number)) [] [] (some 2) (some 3) none none none none))
    [] [] (some n) none none none none (some description)

/-- The tools, in the order they are listed. -/
def tools : List Tool :=
  [⟨"draw_line", "Draw a straight line between two points in AutoCAD",
    object [("start", point "Start point coordinates [x, y] or [x, y, z]"),
      ("end", point "End point coordinates [x, y] or [x, y, z]"),
      ("layer", layer), ("color", colour), ("lineweight", lineweight)] ["start", "end"]⟩,
   ⟨"draw_circle", "Draw a circle with specified center and radius in AutoCAD",
    object [("center", point "Center point coordinates [x, y] or [x, y, z]"),
      ("radius", nonNegative "Circle radius"),
      ("layer", layer), ("color", colour), ("lineweight", lineweight)] ["center", "radius"]⟩,
   ⟨"draw_arc", "Draw an arc with specified center, radius, and angles in AutoCAD",
    object [("center", point "Center point coordinates [x, y] or [x, y, z]"),
      ("radius", nonNegative "Arc radius"),
      ("start_angle", number "Start angle in degrees"), ("end_angle", number "End angle in degrees"),
      ("layer", layer), ("color", colour), ("lineweight", lineweight)]
      ["center", "radius", "start_angle", "end_angle"]⟩,
   ⟨"draw_ellipse", "Draw an ellipse with specified center, axes, and rotation in AutoCAD",
    object [("center", point "Center point coordinates [x, y] or [x, y, z]"),
      ("major_axis", nonNegative "Length of major axis"),
      ("minor_axis", nonNegative "Length of minor axis"),
      ("rotation", (number "Rotation angle in degrees (optional)").withDefault (.int 0)),
      ("layer", layer), ("color", colour), ("lineweight", lineweight)]
      ["center", "major_axis", "minor_axis"]⟩,
   ⟨"draw_polyline", "Draw a polyline through multiple points in AutoCAD",
    object [("points", pointList 2 "Array of points [[x1,y1], [x2,y2], ...]"),
      ("closed", (Schema.node .boolean none [] [] none none none none none
        (some "Whether to close the polyline")).withDefault (.bool false)),
      ("layer", layer), ("color", colour), ("lineweight", lineweight)] ["points"]⟩,
   ⟨"draw_rectangle", "Draw a rectangle defined by two corner points in AutoCAD",
    object [("corner1", point "First corner coordinates [x, y] or [x, y, z]"),
      ("corner2", point "Opposite corner coordinates [x, y] or [x, y, z]"),
      ("layer", layer), ("color", colour), ("lineweight", lineweight)] ["corner1", "corner2"]⟩,
   ⟨"draw_text", "Add text at a specified position in AutoCAD",
    object [("position", point "Text insertion point [x, y] or [x, y, z]"),
      ("text", text "Text content"),
      ("height", (nonNegative "Text height (optional)").withDefault (.float 2.5)),
      ("rotation", (number "Rotation angle in degrees (optional)").withDefault (.int 0)),
      ("layer", layer), ("color", colour)] ["position", "text"]⟩,
   ⟨"draw_hatch", "Create a hatch pattern fill within a boundary in AutoCAD",
    object [("boundary_points", pointList 3 "Boundary points forming a closed area"),
      ("pattern_name", (text "Hatch pattern name (e.g., SOLID, ANSI31)").withDefault (.str "SOLID")),
      ("pattern_scale", (nonNegative "Pattern scale factor").withDefault (.float 1.0)),
      ("layer", layer), ("color", colour)] ["boundary_points"]⟩,
   ⟨"add_dimension", "Add a linear dimension annotation in AutoCAD",
    object [("start", point "Start point of dimension [x, y] or [x, y, z]"),
      ("end", point "End point of dimension [x, y] or [x, y, z]"),
      ("text_position", point "Position for dimension text [x, y] or [x, y, z]"),
      ("layer", layer), ("color", colour)] ["start", "end", "text_position"]⟩,
   ⟨"save_drawing", "Save the current drawing to a DWG file",
    object [("file_path", text "Full path for the saved file (e.g., C:/drawings/myfile.dwg)")]
      ["file_path"]⟩,
   ⟨"process_command",
    "Process a natural language command to control AutoCAD. Supports commands like 'draw a red circle at (100, 100) with radius 50'",
    object [("command", text "Natural language command describing what to draw")] ["command"]⟩]

end Drafting
