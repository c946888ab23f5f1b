import ValueBuilder.Proofs.Source.Lines

/-!
# Lines in chunks

A template is expanded character by character, which is no form to read a line in.  The chunks of a
line are its arguments and, as long as possible, the texts between them.  They can be compared with a
pattern, and they give the text of the line (`Statement.line_of_chunks`).
-/

namespace ValueBuilder

/-- A part of a line: a text of the generator's own, as long as possible, or an argument. -/
inductive Chunk
  | text (cs : List Char)
  | argument (piece : Piece)

namespace Chunk

/-- Puts a text in front, as part of the text that stands there. -/
def consText (cs : List Char) : List Chunk → List Chunk
  | text ds :: rest => text (cs ++ ds) :: rest
  | rest => text cs :: rest

/-- The chunks of pieces. -/
def ofPieces : List Piece → List Chunk
  | [] => []
  | .word (.text s) :: rest => consText s.toList (ofPieces rest)
  | piece :: rest => argument piece :: ofPieces rest

/-- The line that chunks make. -/
def line (spelling : Spelling) : List Chunk → String
  | [] => "\n"
  | text cs :: rest => String.ofList cs ++ line spelling rest
  | argument piece :: rest => piece.render spelling ++ line spelling rest

theorem line_consText (spelling : Spelling) (cs : List Char) (chunks : List Chunk) :
    line spelling (consText cs chunks) = String.ofList cs ++ line spelling chunks := by
  fun_cases consText cs chunks with
  | case1 ds rest =>
    rw [line, line, String.ofList_append, String.append_assoc]
  | case2 => rfl

theorem line_ofPieces (spelling : Spelling) (pieces : List Piece) :
    line spelling (ofPieces pieces) = renderPieces spelling pieces ++ "\n" := by
  have hcons (piece : Piece) (pieces : List Piece) :
      renderPieces spelling (piece :: pieces) = piece.render spelling ++ renderPieces spelling pieces :=
    rfl
  fun_induction ofPieces pieces with
  | case1 => rfl
  | case2 s rest ih =>
    have htext : (Piece.word (.text s)).render spelling = s := rfl
    rw [line_consText, ih, hcons, htext, String.ofList_toList, String.append_assoc]
  | case3 piece rest hpiece ih =>
    rw [line, ih, hcons, String.append_assoc]

end Chunk

namespace Statement

/-- The chunks of a statement. -/
def chunks (s : Statement) : List Chunk :=
  Chunk.ofPieces s.pieces

/-- A line is read off from its chunks. -/
theorem line_of_chunks {s : Statement} {chunks : List Chunk} (h : s.chunks = chunks)
    (spelling : Spelling) : s.line spelling = Chunk.line spelling chunks := by
  rw [← h, Statement.chunks, Chunk.line_ofPieces]
  rfl

end Statement

end ValueBuilder
