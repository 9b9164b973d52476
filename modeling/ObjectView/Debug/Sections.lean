import ObjectView.Image.Parse

/-!
# The sections that hold debugging information

Every section is optional; one that an image lacks is empty.
-/

namespace ObjectView.Debug

structure Sections where
  bigEndian : Bool
  abbreviations : ByteArray := .empty
  addresses : ByteArray := .empty
  info : ByteArray := .empty
  lines : ByteArray := .empty
  lineTexts : ByteArray := .empty
  ranges : ByteArray := .empty
  rangeLists : ByteArray := .empty
  texts : ByteArray := .empty
  textOffsets : ByteArray := .empty
  types : ByteArray := .empty

namespace Sections

/-- What each section is called, and the field that it fills, in the order of loading. -/
def known : List (String × (Sections → ByteArray → Sections)) :=
  [("debug_abbrev", fun s bytes => { s with abbreviations := bytes }),
   ("debug_addr", fun s bytes => { s with addresses := bytes }),
   ("debug_info", fun s bytes => { s with info := bytes }),
   ("debug_line", fun s bytes => { s with lines := bytes }),
   ("debug_line_str", fun s bytes => { s with lineTexts := bytes }),
   ("debug_ranges", fun s bytes => { s with ranges := bytes }),
   ("debug_rnglists", fun s bytes => { s with rangeLists := bytes }),
   ("debug_str", fun s bytes => { s with texts := bytes }),
   ("debug_str_offsets", fun s bytes => { s with textOffsets := bytes }),
   ("debug_types", fun s bytes => { s with types := bytes })]

/-- The sections of an image, or the name of the first one that cannot be read. -/
def ofImage (readers : Image.Readers) (image : Image) : Except String Sections :=
  known.foldlM (fun sections (name, fill) =>
    match image.lookup readers ["." ++ name, "__" ++ name] with
    | .missing => .ok sections
    | .found bytes => .ok (fill sections bytes)
    | .unreadable name => .error name) { bigEndian := image.bigEndian }

end Sections

end ObjectView.Debug
