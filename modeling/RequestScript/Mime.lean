import RequestScript.Path
import RequestScript.Text.Case

/-!
# Media types

The media type of a file is guessed from the extension of its name, in any letter case. An
ending that says how the file is compressed is taken off first, as it is spelled.
-/

namespace RequestScript.Mime

open Text

/-- Media types by extension. -/
def types : List (String × String) :=
  [(".3g2", "audio/3gpp2"), (".3gp", "audio/3gpp"), (".3gpp", "audio/3gpp"),
    (".3gpp2", "audio/3gpp2"), (".a", "application/octet-stream"), (".aac", "audio/aac"),
    (".adts", "audio/aac"), (".ai", "application/postscript"), (".aif", "audio/x-aiff"),
    (".aifc", "audio/x-aiff"), (".aiff", "audio/x-aiff"), (".ass", "audio/aac"),
    (".au", "audio/basic"), (".avi", "video/x-msvideo"), (".avif", "image/avif"),
    (".bat", "text/plain"), (".bcpio", "application/x-bcpio"),
    (".bin", "application/octet-stream"), (".bmp", "image/bmp"), (".c", "text/plain"),
    (".cdf", "application/x-netcdf"), (".cpio", "application/x-cpio"),
    (".csh", "application/x-csh"), (".css", "text/css"), (".csv", "text/csv"),
    (".dll", "application/octet-stream"), (".doc", "application/msword"),
    (".dot", "application/msword"), (".dvi", "application/x-dvi"), (".eml", "message/rfc822"),
    (".eps", "application/postscript"), (".etx", "text/x-setext"),
    (".exe", "application/octet-stream"), (".gif", "image/gif"), (".gtar", "application/x-gtar"),
    (".h", "text/plain"), (".h5", "application/x-hdf5"), (".hdf", "application/x-hdf"),
    (".heic", "image/heic"), (".heif", "image/heif"), (".htm", "text/html"),
    (".html", "text/html"), (".ico", "image/vnd.microsoft.icon"), (".ief", "image/ief"),
    (".jpe", "image/jpeg"), (".jpeg", "image/jpeg"), (".jpg", "image/jpeg"),
    (".js", "application/javascript"), (".json", "application/json"), (".ksh", "text/plain"),
    (".latex", "application/x-latex"), (".loas", "audio/aac"), (".m1v", "video/mpeg"),
    (".m3u", "application/vnd.apple.mpegurl"), (".m3u8", "application/vnd.apple.mpegurl"),
    (".man", "application/x-troff-man"), (".me", "application/x-troff-me"),
    (".mht", "message/rfc822"), (".mhtml", "message/rfc822"), (".mif", "application/x-mif"),
    (".mjs", "application/javascript"), (".mov", "video/quicktime"),
    (".movie", "video/x-sgi-movie"), (".mp2", "audio/mpeg"), (".mp3", "audio/mpeg"),
    (".mp4", "video/mp4"), (".mpa", "video/mpeg"), (".mpe", "video/mpeg"),
    (".mpeg", "video/mpeg"), (".mpg", "video/mpeg"), (".ms", "application/x-troff-ms"),
    (".n3", "text/n3"), (".nc", "application/x-netcdf"), (".nq", "application/n-quads"),
    (".nt", "application/n-triples"), (".nws", "message/rfc822"),
    (".o", "application/octet-stream"), (".obj", "application/octet-stream"),
    (".oda", "application/oda"), (".opus", "audio/opus"), (".p12", "application/x-pkcs12"),
    (".p7c", "application/pkcs7-mime"), (".pbm", "image/x-portable-bitmap"),
    (".pdf", "application/pdf"), (".pfx", "application/x-pkcs12"),
    (".pgm", "image/x-portable-graymap"), (".pl", "text/plain"), (".png", "image/png"),
    (".pnm", "image/x-portable-anymap"), (".pot", "application/vnd.ms-powerpoint"),
    (".ppa", "application/vnd.ms-powerpoint"), (".ppm", "image/x-portable-pixmap"),
    (".pps", "application/vnd.ms-powerpoint"), (".ppt", "application/vnd.ms-powerpoint"),
    (".ps", "application/postscript"), (".pwz", "application/vnd.ms-powerpoint"),
    (".py", "text/x-python"), (".pyc", "application/x-python-code"),
    (".pyo", "application/x-python-code"), (".qt", "video/quicktime"),
    (".ra", "audio/x-pn-realaudio"), (".ram", "application/x-pn-realaudio"),
    (".ras", "image/x-cmu-raster"), (".rdf", "application/xml"), (".rgb", "image/x-rgb"),
    (".roff", "application/x-troff"), (".rtx", "text/richtext"), (".sgm", "text/x-sgml"),
    (".sgml", "text/x-sgml"), (".sh", "application/x-sh"), (".shar", "application/x-shar"),
    (".snd", "audio/basic"), (".so", "application/octet-stream"),
    (".src", "application/x-wais-source"), (".srt", "text/plain"),
    (".sv4cpio", "application/x-sv4cpio"), (".sv4crc", "application/x-sv4crc"),
    (".svg", "image/svg+xml"), (".swf", "application/x-shockwave-flash"),
    (".t", "application/x-troff"), (".tar", "application/x-tar"), (".tcl", "application/x-tcl"),
    (".tex", "application/x-tex"), (".texi", "application/x-texinfo"),
    (".texinfo", "application/x-texinfo"), (".tif", "image/tiff"), (".tiff", "image/tiff"),
    (".tr", "application/x-troff"), (".trig", "application/trig"),
    (".tsv", "text/tab-separated-values"), (".txt", "text/plain"),
    (".ustar", "application/x-ustar"), (".vcf", "text/x-vcard"), (".vtt", "text/vtt"),
    (".wasm", "application/wasm"), (".wav", "audio/x-wav"), (".webm", "video/webm"),
    (".webmanifest", "application/manifest+json"), (".wiz", "application/msword"),
    (".wsdl", "application/xml"), (".xbm", "image/x-xbitmap"),
    (".xlb", "application/vnd.ms-excel"), (".xls", "application/vnd.ms-excel"),
    (".xml", "text/xml"), (".xpdl", "application/xml"), (".xpm", "image/x-xpixmap"),
    (".xsl", "application/xml"), (".xwd", "image/x-xwindowdump"), (".zip", "application/zip")]

/-- Extensions that stand for two. -/
def doubleExtensions : List (String × String) :=
  [(".svgz", ".svg.gz"), (".tgz", ".tar.gz"), (".taz", ".tar.gz"), (".tz", ".tar.gz"),
    (".tbz2", ".tar.bz2"), (".txz", ".tar.xz")]

/-- Extensions of compressed files. -/
def compressions : List String :=
  [".gz", ".Z", ".bz2", ".xz", ".br"]

/-- A name and its extension, from the last dot on. Dots at the start of the name after the last
slash begin no extension. -/
def splitExtension (cs : List Char) : List Char × List Char :=
  let reversed := cs.reverse
  let extension := reversed.takeWhile fun c => c != '.' && c != '/'
  match reversed.drop extension.length with
  | '.' :: base =>
    if (base.takeWhile (· != '/')).all (· == '.') then (cs, [])
    else (base.reverse, '.' :: extension.reverse)
  | _ => (cs, [])

/-- A name and its extension, where an extension that stands for two counts as the last of
them. -/
def splitName (cs : List Char) : List Char × List Char :=
  let (base, extension) := splitExtension cs
  match doubleExtensions.lookup (String.ofList (lower extension)) with
  | some double => splitExtension (base ++ double.toList)
  | none => (base, extension)

/-- The media type in a text that starts with `data:`. -/
def ofData (cs : List Char) : Option String :=
  match cut? ',' cs with
  | none => none
  | some (start, _) =>
    let type := start.takeWhile (· != ';')
    some (if type.contains '=' || !type.contains '/' then "text/plain" else String.ofList type)

/-- A text cut into the scheme before its first colon, in lower case, and the path after it. A
scheme has characters, and no slash among them; a text without one is a path as a whole. -/
def splitScheme (cs : List Char) : List Char × List Char :=
  match cut? ':' cs with
  | some (scheme, rest) =>
    if scheme.isEmpty || scheme.contains '/' then ([], cs) else (lower scheme, rest)
  | none => ([], cs)

/-- The media type of a path, if one is known. -/
def guess? (path : String) : Option String :=
  let (scheme, cs) := splitScheme path.toList
  if scheme = "data".toList then ofData cs
  else
    let (base, extension) := splitName cs
    let extension :=
      if compressions.contains (String.ofList extension) then (splitExtension base).2
      else extension
    types.lookup (String.ofList (lower extension))

/-- The media type of files whose type is not known. -/
def unknown : String := "application/octet-stream"

/-- The media type of a path. -/
def ofPath (path : Path) : String :=
  (guess? path.text).getD unknown

/-- The media types that are text and do not say so. -/
def textTypes : List String :=
  ["application/json", "application/xml", "application/javascript", "text/javascript"]

/-- Whether files of a media type are texts. -/
def isText (mime : String) : Bool :=
  "text/".toList.isPrefixOf mime.toList || textTypes.contains mime

end RequestScript.Mime
