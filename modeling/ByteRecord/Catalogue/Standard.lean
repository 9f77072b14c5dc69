import ByteRecord.Value.Basic

/-! The catalogue that is used when no other is given: headers of image, grid and archive files. -/
namespace ByteRecord.Catalogue

private def mapping (entries : List (String × Value)) : Value :=
  .dict (entries.map fun (key, value) => (.str key, value))

private def fixed (pattern : Value) : Value :=
  mapping [("pattern", pattern)]

/-- A matched field with a remark. -/
private def remarked (pattern : Value) (description : String) : Value :=
  mapping [("pattern", pattern), ("description", .str description)]

/-- A member whose value an expression makes of its bytes. -/
private def computed (member pattern transform : String) : Value :=
  mapping [("member", .str member), ("binding", .str "raw"), ("pattern", .str pattern),
    ("transform", .str transform)]

private def kept (member : String) (pattern : Value) : Value :=
  mapping [("member", .str member), ("pattern", pattern)]

private def bigEndian : String := "int.from_bytes(raw, 'big')"

private def littleEndian : String := "int.from_bytes(raw, 'little')"

private def double : String := "struct.unpack('<d', raw)[0]"

private def image : Value :=
  mapping [
    ("name", .str "PNG Image Header"),
    ("description", .str "PNG signature followed by the IHDR chunk"),
    ("extensions", .list [.str ".png"]),
    ("rest", mapping [("kind", .str "image")]),
    ("fields", .list [
      remarked (mapping [("hex", .str "89 50 4E 47 0D 0A 1A 0A")]) "PNG signature",
      computed "header_length" "00 00 00 0D" bigEndian,
      fixed (mapping [("bytes", .str "IHDR")]),
      computed "width" "________" bigEndian,
      computed "height" "________" bigEndian,
      computed "bit_depth" "__" "raw[0]",
      computed "color_type" "__" "raw[0]"])]

private def grid : Value :=
  mapping [
    ("name", .str "Surfer 6 Binary Grid"),
    ("description", .str "Golden Software Surfer 6 grid header (DSBB)"),
    ("extensions", .list [.str ".grd"]),
    ("fields", .list [
      fixed (mapping [("bytes", .str "DSBB")]),
      computed "nx" "____" littleEndian,
      computed "ny" "____" littleEndian,
      computed "xlo" "________ ________" double,
      computed "xhi" "________ ________" double,
      computed "ylo" "________ ________" double,
      computed "yhi" "________ ________" double,
      computed "zlo" "________ ________" double,
      computed "zhi" "________ ________" double])]

private def archive : Value :=
  mapping [
    ("name", .str "GZIP Member Header"),
    ("description", .str "RFC 1952 member header with deflate compression"),
    ("extensions", .list [.str ".gz"]),
    ("fields", .list [
      fixed (.str "1F 8B"),
      kept "method" (.list [.int 8]),
      computed "flags" "__" "raw[0]",
      computed "mtime" "________" littleEndian,
      kept "extra_flags" (.str "__"),
      computed "os" "__" "raw[0]"])]

private def bitmap : Value :=
  mapping [
    ("name", .str "BMP File Header"),
    ("description", .str "Windows bitmap file header"),
    ("extensions", .list [.str ".bmp"]),
    ("rest", mapping [("kind", .str "image")]),
    ("fields", .list [
      fixed (mapping [("bytes", .str "BM")]),
      computed "file_size" "________" littleEndian,
      remarked (.str "0000 0000") "reserved",
      computed "data_offset" "________" littleEndian])]

def standard : Value :=
  mapping [("formats", .list [image, grid, archive, bitmap])]

end ByteRecord.Catalogue
