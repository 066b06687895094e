import SnippetMarkup.Report.Problem
import SnippetMarkup.Reference.TargetsFault
import SnippetMarkup.Yaml.Loader
import SnippetMarkup.Encoding.Basic

/-!
# Failures

What stops a run altogether, as opposed to the problems that it reports.
-/

namespace SnippetMarkup

inductive Failure where
  | markup (failure : MarkupFailure)
  | file (error : FileError)
  /-- A name pattern has two stars side by side. -/
  | strayDoubleStar
  /-- There is no encoding with the name. -/
  | unknownEncoding (name : Text)
  /-- A file does not say in which order its bytes come. -/
  | unmarkedFile (encoding : Text)
  | targets (path : Path) (fault : TargetsFault)
  /-- A target file cannot be loaded, and not because it is no YAML document. -/
  | yaml (fault : Yaml.Fault)
  /-- A number in a target file has too many digits to be shown. -/
  | longNumber
  | noSource
  deriving DecidableEq, Repr

def Failure.message : Failure → Text
  | markup failure => failure.message
  | file error => error.message
  | strayDoubleStar => "Invalid pattern: '**' can only be an entire path component".toList
  | unknownEncoding name => "unknown encoding: ".toList ++ name
  | unmarkedFile encoding => encoding ++ " stream does not start with BOM".toList
  | targets path fault => fault.message path
  | yaml fault => fault.message
  | longNumber =>
    ("Exceeds the limit (4300 digits) for integer string conversion; " ++
      "use sys.set_int_max_str_digits() to increase the limit").toList
  | noSource => "'NoneType' object has no attribute 'lines'".toList

end SnippetMarkup
