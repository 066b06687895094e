import SnippetMarkup.Run.CommandLine

/-!
# Texts of the command

What the command says about itself.
-/

namespace SnippetMarkup.CommandLine

def program : Text := "snipmark".toList

def versionText : Text := program ++ " 1.0.0\n".toList

def usage : Text :=
  ("usage: snipmark [-h] --inputFile INPUTFILE [--region REGION]\n" ++
   "                [--targets TARGETS] [--snippetId SNIPPETID] [--lang LANG]\n" ++
   "                [--outputFile OUTPUTFILE] [-v] [-V]\n" ++
   "                inputdir outputdir\n").toList

/-- What the parts of a command line mean. -/
def helpText : Text :=
  usage ++
  ("\n" ++
   "snipmark - Convert snippets with markup comments to HTML\n" ++
   "\n" ++
   "positional arguments:\n" ++
   "  inputdir              directory containing input files\n" ++
   "  outputdir             directory containing output files\n" ++
   "\n" ++
   "options:\n" ++
   "  -h, --help            show this help message and exit\n" ++
   "  --inputFile INPUTFILE\n" ++
   "                        Snippet source file (relative to inputdir) (default:\n" ++
   "                        None)\n" ++
   "  --region REGION       Region of the snippet file to extract (between @start\n" ++
   "                        and @end) (default: None)\n" ++
   "  --targets TARGETS     YAML file mapping @link targets to references\n" ++
   "                        (relative to inputdir) (default: None)\n" ++
   "  --snippetId SNIPPETID\n" ++
   "                        id attribute of the generated container (default:\n" ++
   "                        None)\n" ++
   "  --lang LANG           Language of the snippet, rendered as language-<lang>\n" ++
   "                        (default: None)\n" ++
   "  --outputFile OUTPUTFILE\n" ++
   "                        Name of the generated file. Defaults to <inputFile\n" ++
   "                        stem>.html (default: None)\n" ++
   "  -v, --verbosity       Increase output verbosity (can be repeated: -v, -vv,\n" ++
   "                        -vvv) (default: 1)\n" ++
   "  -V, --version         show program's version number and exit\n").toList

/-- What a wrong command line is answered with. -/
def usageError (fault : UsageFault) : Text :=
  usage ++ program ++ ": error: ".toList ++ fault.message ++ ['\n']

end SnippetMarkup.CommandLine
