import BoardSetup.Shell.Tools

/-!
# Help and version texts of the stand-alone programs

Every stand-alone program answers `--help` with its usage and `--version` with its version, on
standard output, and succeeds (`false` apart, which fails after either).

A help starts with `Usage:` and the name the program was called by, lists the options and ends
the list with the lines of `--help` and `--version`. The programs a shell also has as builtins
(`echo`, `printf`, `true`, `false` and `test`) add a note that the shell's own version usually
runs instead. `[` is documented with `test`: its help names both.

A version text names the program as it is built, not as it was called, with its package and
version. The usage texts are the programs' own output, kept byte for byte.
-/

namespace BoardSetup.Shell

/-! ## Pieces every help shares -/

def helpOptionLines : String :=
  "      --help        display this help and exit\n" ++
    "      --version     output version information and exit\n"

def builtinNote (what : String) : String :=
  "\nNOTE: your shell may have its own version of " ++ what ++ ", which usually supersedes\n" ++
    "the version described here.  Please refer to your shell's documentation\n" ++
    "for details about the options it supports.\n"

/-! ## Version texts -/

def versionText (program : String) : List UInt8 :=
  textBytes (program ++ " (GNU coreutils) 9.1\n")

/-! ## Helps -/

def exitHelp (success : Bool) (name : List UInt8) : List UInt8 :=
  let which := if success then "true" else "false"
  textBytes "Usage: " ++ name ++ textBytes " [ignored command line arguments]\n  or:  " ++ name ++
    textBytes (" OPTION\nExit with a status code indicating " ++
      (if success then "success" else "failure") ++ ".\n\n" ++
      helpOptionLines ++
      builtinNote which)

def lsHelp (name : List UInt8) : List UInt8 :=
  textBytes "Usage: " ++ name ++ textBytes (" [OPTION]... [FILE]...\n" ++
    "List information about the FILEs (the current directory by default).\n" ++
    "Sort entries alphabetically if none of -cftuvSUX nor --sort is specified.\n\n" ++
    "Mandatory arguments to long options are mandatory for short options too.\n" ++
    "  -a, --all                  do not ignore entries starting with .\n" ++
    "  -A, --almost-all           do not list implied . and ..\n" ++
    "      --author               with -l, print the author of each file\n" ++
    "  -b, --escape               print C-style escapes for nongraphic characters\n" ++
    "      --block-size=SIZE      with -l, scale sizes by SIZE when printing them;\n" ++
    "                             e.g., '--block-size=M'; see SIZE format below\n\n" ++
    "  -B, --ignore-backups       do not list implied entries ending with ~\n" ++
    "  -c                         with -lt: sort by, and show, ctime (time of last\n" ++
    "                             modification of file status information);\n" ++
    "                             with -l: show ctime and sort by name;\n" ++
    "                             otherwise: sort by ctime, newest first\n\n" ++
    "  -C                         list entries by columns\n" ++
    "      --color[=WHEN]         color the output WHEN; more info below\n" ++
    "  -d, --directory            list directories themselves, not their contents\n" ++
    "  -D, --dired                generate output designed for Emacs' dired mode\n" ++
    "  -f                         list all entries in directory order\n" ++
    "  -F, --classify[=WHEN]      append indicator (one of */=>@|) to entries WHEN\n" ++
    "      --file-type            likewise, except do not append '*'\n" ++
    "      --format=WORD          across -x, commas -m, horizontal -x, long -l,\n" ++
    "                             single-column -1, verbose -l, vertical -C\n\n" ++
    "      --full-time            like -l --time-style=full-iso\n" ++
    "  -g                         like -l, but do not list owner\n" ++
    "      --group-directories-first\n" ++
    "                             group directories before files;\n" ++
    "                             can be augmented with a --sort option, but any\n" ++
    "                             use of --sort=none (-U) disables grouping\n\n" ++
    "  -G, --no-group             in a long listing, don't print group names\n" ++
    "  -h, --human-readable       with -l and -s, print sizes like 1K 234M 2G etc.\n" ++
    "      --si                   likewise, but use powers of 1000 not 1024\n" ++
    "  -H, --dereference-command-line\n" ++
    "                             follow symbolic links listed on the command line\n" ++
    "      --dereference-command-line-symlink-to-dir\n" ++
    "                             follow each command line symbolic link\n" ++
    "                             that points to a directory\n\n" ++
    "      --hide=PATTERN         do not list implied entries matching shell PATTERN\n" ++
    "                             (overridden by -a or -A)\n\n" ++
    "      --hyperlink[=WHEN]     hyperlink file names WHEN\n" ++
    "      --indicator-style=WORD\n" ++
    "                             append indicator with style WORD to entry names:\n" ++
    "                             none (default), slash (-p),\n" ++
    "                             file-type (--file-type), classify (-F)\n\n" ++
    "  -i, --inode                print the index number of each file\n" ++
    "  -I, --ignore=PATTERN       do not list implied entries matching shell PATTERN\n" ++
    "  -k, --kibibytes            default to 1024-byte blocks for file system usage;\n" ++
    "                             used only with -s and per directory totals\n\n" ++
    "  -l                         use a long listing format\n" ++
    "  -L, --dereference          when showing file information for a symbolic\n" ++
    "                             link, show information for the file the link\n" ++
    "                             references rather than for the link itself\n\n" ++
    "  -m                         fill width with a comma separated list of entries\n" ++
    "  -n, --numeric-uid-gid      like -l, but list numeric user and group IDs\n" ++
    "  -N, --literal              print entry names without quoting\n" ++
    "  -o                         like -l, but do not list group information\n" ++
    "  -p, --indicator-style=slash\n" ++
    "                             append / indicator to directories\n" ++
    "  -q, --hide-control-chars   print ? instead of nongraphic characters\n" ++
    "      --show-control-chars   show nongraphic characters as-is (the default,\n" ++
    "                             unless program is 'ls' and output is a terminal)\n\n" ++
    "  -Q, --quote-name           enclose entry names in double quotes\n" ++
    "      --quoting-style=WORD   use quoting style WORD for entry names:\n" ++
    "                             literal, locale, shell, shell-always,\n" ++
    "                             shell-escape, shell-escape-always, c, escape\n" ++
    "                             (overrides QUOTING_STYLE environment variable)\n\n" ++
    "  -r, --reverse              reverse order while sorting\n" ++
    "  -R, --recursive            list subdirectories recursively\n" ++
    "  -s, --size                 print the allocated size of each file, in blocks\n" ++
    "  -S                         sort by file size, largest first\n" ++
    "      --sort=WORD            sort by WORD instead of name: none (-U), size (-S),\n" ++
    "                             time (-t), version (-v), extension (-X), width\n\n" ++
    "      --time=WORD            change the default of using modification times;\n" ++
    "                               access time (-u): atime, access, use;\n" ++
    "                               change time (-c): ctime, status;\n" ++
    "                               birth time: birth, creation;\n" ++
    "                             with -l, WORD determines which time to show;\n" ++
    "                             with --sort=time, sort by WORD (newest first)\n\n" ++
    "      --time-style=TIME_STYLE\n" ++
    "                             time/date format with -l; see TIME_STYLE below\n" ++
    "  -t                         sort by time, newest first; see --time\n" ++
    "  -T, --tabsize=COLS         assume tab stops at each COLS instead of 8\n" ++
    "  -u                         with -lt: sort by, and show, access time;\n" ++
    "                             with -l: show access time and sort by name;\n" ++
    "                             otherwise: sort by access time, newest first\n\n" ++
    "  -U                         do not sort; list entries in directory order\n" ++
    "  -v                         natural sort of (version) numbers within text\n" ++
    "  -w, --width=COLS           set output width to COLS.  0 means no limit\n" ++
    "  -x                         list entries by lines instead of by columns\n" ++
    "  -X                         sort alphabetically by entry extension\n" ++
    "  -Z, --context              print any security context of each file\n" ++
    "      --zero                 end each output line with NUL, not newline\n" ++
    "  -1                         list one file per line\n" ++
    helpOptionLines ++
    "\n" ++
    "The SIZE argument is an integer and optional unit (example: 10K is 10*1024).\n" ++
    "Units are K,M,G,T,P,E,Z,Y (powers of 1024) or KB,MB,... (powers of 1000).\n" ++
    "Binary prefixes can be used, too: KiB=K, MiB=M, and so on.\n\n" ++
    "The TIME_STYLE argument can be full-iso, long-iso, iso, locale, or +FORMAT.\n" ++
    "FORMAT is interpreted like in date(1).  If FORMAT is FORMAT1<newline>FORMAT2,\n" ++
    "then FORMAT1 applies to non-recent files and FORMAT2 to recent files.\n" ++
    "TIME_STYLE prefixed with 'posix-' takes effect only outside the POSIX locale.\n" ++
    "Also the TIME_STYLE environment variable sets the default style to use.\n\n" ++
    "The WHEN argument defaults to 'always' and can also be 'auto' or 'never'.\n\n" ++
    "Using color to distinguish file types is disabled both by default and\n" ++
    "with --color=never.  With --color=auto, ls emits color codes only when\n" ++
    "standard output is connected to a terminal.  The LS_COLORS environment\n" ++
    "variable can change the settings.  Use the dircolors(1) command to set it.\n\n" ++
    "Exit status:\n" ++
    " 0  if OK,\n" ++
    " 1  if minor problems (e.g., cannot access subdirectory),\n" ++
    " 2  if serious trouble (e.g., cannot access command-line argument).\n")

def catHelp (name : List UInt8) : List UInt8 :=
  textBytes "Usage: " ++ name ++ textBytes (" [OPTION]... [FILE]...\n" ++
    "Concatenate FILE(s) to standard output.\n\n" ++
    "With no FILE, or when FILE is -, read standard input.\n\n" ++
    "  -A, --show-all           equivalent to -vET\n" ++
    "  -b, --number-nonblank    number nonempty output lines, overrides -n\n" ++
    "  -e                       equivalent to -vE\n" ++
    "  -E, --show-ends          display $ at end of each line\n" ++
    "  -n, --number             number all output lines\n" ++
    "  -s, --squeeze-blank      suppress repeated empty output lines\n" ++
    "  -t                       equivalent to -vT\n" ++
    "  -T, --show-tabs          display TAB characters as ^I\n" ++
    "  -u                       (ignored)\n" ++
    "  -v, --show-nonprinting   use ^ and M- notation, except for LFD and TAB\n" ++
    helpOptionLines ++
    "\n" ++
    "Examples:\n" ++
    "  cat f - g  Output f's contents, then standard input, then g's contents.\n" ++
    "  cat        Copy standard input to standard output.\n")

def sleepHelp (name : List UInt8) : List UInt8 :=
  textBytes "Usage: " ++ name ++ textBytes (" NUMBER[SUFFIX]...\n" ++
    "  or:  ") ++ name ++ textBytes (" OPTION\n" ++
    "Pause for NUMBER seconds.  SUFFIX may be 's' for seconds (the default),\n" ++
    "'m' for minutes, 'h' for hours or 'd' for days.  NUMBER need not be an\n" ++
    "integer.  Given two or more arguments, pause for the amount of time\n" ++
    "specified by the sum of their values.\n\n" ++
    helpOptionLines)

def echoHelp (name : List UInt8) : List UInt8 :=
  textBytes "Usage: " ++ name ++ textBytes (" [SHORT-OPTION]... [STRING]...\n" ++
    "  or:  ") ++ name ++ textBytes (" LONG-OPTION\n" ++
    "Echo the STRING(s) to standard output.\n\n" ++
    "  -n             do not output the trailing newline\n" ++
    "  -e             enable interpretation of backslash escapes\n" ++
    "  -E             disable interpretation of backslash escapes (default)\n" ++
    helpOptionLines ++
    "\n" ++
    "If -e is in effect, the following sequences are recognized:\n\n" ++
    "  \\\\      backslash\n" ++
    "  \\a      alert (BEL)\n" ++
    "  \\b      backspace\n" ++
    "  \\c      produce no further output\n" ++
    "  \\e      escape\n" ++
    "  \\f      form feed\n" ++
    "  \\n      new line\n" ++
    "  \\r      carriage return\n" ++
    "  \\t      horizontal tab\n" ++
    "  \\v      vertical tab\n" ++
    "  \\0NNN   byte with octal value NNN (1 to 3 digits)\n" ++
    "  \\xHH    byte with hexadecimal value HH (1 to 2 digits)\n" ++
    builtinNote "echo")

def printfHelp (name : List UInt8) : List UInt8 :=
  textBytes "Usage: " ++ name ++ textBytes (" FORMAT [ARGUMENT]...\n" ++
    "  or:  ") ++ name ++ textBytes (" OPTION\n" ++
    "Print ARGUMENT(s) according to FORMAT, or execute according to OPTION:\n\n" ++
    helpOptionLines ++
    "\n" ++
    "FORMAT controls the output as in C printf.  Interpreted sequences are:\n\n" ++
    "  \\\"      double quote\n" ++
    "  \\\\      backslash\n" ++
    "  \\a      alert (BEL)\n" ++
    "  \\b      backspace\n" ++
    "  \\c      produce no further output\n" ++
    "  \\e      escape\n" ++
    "  \\f      form feed\n" ++
    "  \\n      new line\n" ++
    "  \\r      carriage return\n" ++
    "  \\t      horizontal tab\n" ++
    "  \\v      vertical tab\n" ++
    "  \\NNN    byte with octal value NNN (1 to 3 digits)\n" ++
    "  \\xHH    byte with hexadecimal value HH (1 to 2 digits)\n" ++
    "  \\uHHHH  Unicode (ISO/IEC 10646) character with hex value HHHH (4 digits)\n" ++
    "  \\UHHHHHHHH  Unicode character with hex value HHHHHHHH (8 digits)\n" ++
    "  %%      a single %\n" ++
    "  %b      ARGUMENT as a string with '\\' escapes interpreted,\n" ++
    "          except that octal escapes are of the form \\0 or \\0NNN\n" ++
    "  %q      ARGUMENT is printed in a format that can be reused as shell input,\n" ++
    "          escaping non-printable characters with the proposed POSIX $'' syntax.\n\n" ++
    "and all C format specifications ending with one of diouxXfeEgGcs, with\n" ++
    "ARGUMENTs converted to proper type first.  Variable widths are handled.\n" ++
    builtinNote "printf")

def headHelp (name : List UInt8) : List UInt8 :=
  textBytes "Usage: " ++ name ++ textBytes (" [OPTION]... [FILE]...\n" ++
    "Print the first 10 lines of each FILE to standard output.\n" ++
    "With more than one FILE, precede each with a header giving the file name.\n\n" ++
    "With no FILE, or when FILE is -, read standard input.\n\n" ++
    "Mandatory arguments to long options are mandatory for short options too.\n" ++
    "  -c, --bytes=[-]NUM       print the first NUM bytes of each file;\n" ++
    "                             with the leading '-', print all but the last\n" ++
    "                             NUM bytes of each file\n" ++
    "  -n, --lines=[-]NUM       print the first NUM lines instead of the first 10;\n" ++
    "                             with the leading '-', print all but the last\n" ++
    "                             NUM lines of each file\n" ++
    "  -q, --quiet, --silent    never print headers giving file names\n" ++
    "  -v, --verbose            always print headers giving file names\n" ++
    "  -z, --zero-terminated    line delimiter is NUL, not newline\n" ++
    helpOptionLines ++
    "\n" ++
    "NUM may have a multiplier suffix:\n" ++
    "b 512, kB 1000, K 1024, MB 1000*1000, M 1024*1024,\n" ++
    "GB 1000*1000*1000, G 1024*1024*1024, and so on for T, P, E, Z, Y.\n" ++
    "Binary prefixes can be used, too: KiB=K, MiB=M, and so on.\n")

def trHelp (name : List UInt8) : List UInt8 :=
  textBytes "Usage: " ++ name ++ textBytes (" [OPTION]... STRING1 [STRING2]\n" ++
    "Translate, squeeze, and/or delete characters from standard input,\n" ++
    "writing to standard output.  STRING1 and STRING2 specify arrays of\n" ++
    "characters ARRAY1 and ARRAY2 that control the action.\n\n" ++
    "  -c, -C, --complement    use the complement of ARRAY1\n" ++
    "  -d, --delete            delete characters in ARRAY1, do not translate\n" ++
    "  -s, --squeeze-repeats   replace each sequence of a repeated character\n" ++
    "                            that is listed in the last specified ARRAY,\n" ++
    "                            with a single occurrence of that character\n" ++
    "  -t, --truncate-set1     first truncate ARRAY1 to length of ARRAY2\n" ++
    helpOptionLines ++
    "\n" ++
    "ARRAYs are specified as strings of characters.  Most represent themselves.\n" ++
    "Interpreted sequences are:\n\n" ++
    "  \\NNN            character with octal value NNN (1 to 3 octal digits)\n" ++
    "  \\\\              backslash\n" ++
    "  \\a              audible BEL\n" ++
    "  \\b              backspace\n" ++
    "  \\f              form feed\n" ++
    "  \\n              new line\n" ++
    "  \\r              return\n" ++
    "  \\t              horizontal tab\n" ++
    "  \\v              vertical tab\n" ++
    "  CHAR1-CHAR2     all characters from CHAR1 to CHAR2 in ascending order\n" ++
    "  [CHAR*]         in ARRAY2, copies of CHAR until length of ARRAY1\n" ++
    "  [CHAR*REPEAT]   REPEAT copies of CHAR, REPEAT octal if starting with 0\n" ++
    "  [:alnum:]       all letters and digits\n" ++
    "  [:alpha:]       all letters\n" ++
    "  [:blank:]       all horizontal whitespace\n" ++
    "  [:cntrl:]       all control characters\n" ++
    "  [:digit:]       all digits\n" ++
    "  [:graph:]       all printable characters, not including space\n" ++
    "  [:lower:]       all lower case letters\n" ++
    "  [:print:]       all printable characters, including space\n" ++
    "  [:punct:]       all punctuation characters\n" ++
    "  [:space:]       all horizontal or vertical whitespace\n" ++
    "  [:upper:]       all upper case letters\n" ++
    "  [:xdigit:]      all hexadecimal digits\n" ++
    "  [=CHAR=]        all characters which are equivalent to CHAR\n\n" ++
    "Translation occurs if -d is not given and both STRING1 and STRING2 appear.\n" ++
    "-t may be used only when translating.  ARRAY2 is extended to length of\n" ++
    "ARRAY1 by repeating its last character as necessary.  Excess characters\n" ++
    "of ARRAY2 are ignored.  Character classes expand in unspecified order;\n" ++
    "while translating, [:lower:] and [:upper:] may be used in pairs to\n" ++
    "specify case conversion.  Squeezing occurs after translation or deletion.\n")

def cutHelp (name : List UInt8) : List UInt8 :=
  textBytes "Usage: " ++ name ++ textBytes (" OPTION... [FILE]...\n" ++
    "Print selected parts of lines from each FILE to standard output.\n\n" ++
    "With no FILE, or when FILE is -, read standard input.\n\n" ++
    "Mandatory arguments to long options are mandatory for short options too.\n" ++
    "  -b, --bytes=LIST        select only these bytes\n" ++
    "  -c, --characters=LIST   select only these characters\n" ++
    "  -d, --delimiter=DELIM   use DELIM instead of TAB for field delimiter\n" ++
    "  -f, --fields=LIST       select only these fields;  also print any line\n" ++
    "                            that contains no delimiter character, unless\n" ++
    "                            the -s option is specified\n" ++
    "  -n                      (ignored)\n" ++
    "      --complement        complement the set of selected bytes, characters\n" ++
    "                            or fields\n" ++
    "  -s, --only-delimited    do not print lines not containing delimiters\n" ++
    "      --output-delimiter=STRING  use STRING as the output delimiter\n" ++
    "                            the default is to use the input delimiter\n" ++
    "  -z, --zero-terminated    line delimiter is NUL, not newline\n" ++
    helpOptionLines ++
    "\n" ++
    "Use one, and only one of -b, -c or -f.  Each LIST is made up of one\n" ++
    "range, or many ranges separated by commas.  Selected input is written\n" ++
    "in the same order that it is read, and is written exactly once.\n" ++
    "Each range is one of:\n\n" ++
    "  N     N'th byte, character or field, counted from 1\n" ++
    "  N-    from N'th byte, character or field, to end of line\n" ++
    "  N-M   from N'th to M'th (included) byte, character or field\n" ++
    "  -M    from first to M'th (included) byte, character or field\n")

def bracketHelp : List UInt8 :=
  textBytes ("Usage: test EXPRESSION\n" ++
    "  or:  test\n" ++
    "  or:  [ EXPRESSION ]\n" ++
    "  or:  [ ]\n" ++
    "  or:  [ OPTION\n" ++
    "Exit with the status determined by EXPRESSION.\n\n" ++
    helpOptionLines ++
    "\n" ++
    "An omitted EXPRESSION defaults to false.  Otherwise,\n" ++
    "EXPRESSION is true or false and sets exit status.  It is one of:\n\n" ++
    "  ( EXPRESSION )               EXPRESSION is true\n" ++
    "  ! EXPRESSION                 EXPRESSION is false\n" ++
    "  EXPRESSION1 -a EXPRESSION2   both EXPRESSION1 and EXPRESSION2 are true\n" ++
    "  EXPRESSION1 -o EXPRESSION2   either EXPRESSION1 or EXPRESSION2 is true\n\n" ++
    "  -n STRING            the length of STRING is nonzero\n" ++
    "  STRING               equivalent to -n STRING\n" ++
    "  -z STRING            the length of STRING is zero\n" ++
    "  STRING1 = STRING2    the strings are equal\n" ++
    "  STRING1 != STRING2   the strings are not equal\n\n" ++
    "  INTEGER1 -eq INTEGER2   INTEGER1 is equal to INTEGER2\n" ++
    "  INTEGER1 -ge INTEGER2   INTEGER1 is greater than or equal to INTEGER2\n" ++
    "  INTEGER1 -gt INTEGER2   INTEGER1 is greater than INTEGER2\n" ++
    "  INTEGER1 -le INTEGER2   INTEGER1 is less than or equal to INTEGER2\n" ++
    "  INTEGER1 -lt INTEGER2   INTEGER1 is less than INTEGER2\n" ++
    "  INTEGER1 -ne INTEGER2   INTEGER1 is not equal to INTEGER2\n\n" ++
    "  FILE1 -ef FILE2   FILE1 and FILE2 have the same device and inode numbers\n" ++
    "  FILE1 -nt FILE2   FILE1 is newer (modification date) than FILE2\n" ++
    "  FILE1 -ot FILE2   FILE1 is older than FILE2\n\n" ++
    "  -b FILE     FILE exists and is block special\n" ++
    "  -c FILE     FILE exists and is character special\n" ++
    "  -d FILE     FILE exists and is a directory\n" ++
    "  -e FILE     FILE exists\n" ++
    "  -f FILE     FILE exists and is a regular file\n" ++
    "  -g FILE     FILE exists and is set-group-ID\n" ++
    "  -G FILE     FILE exists and is owned by the effective group ID\n" ++
    "  -h FILE     FILE exists and is a symbolic link (same as -L)\n" ++
    "  -k FILE     FILE exists and has its sticky bit set\n" ++
    "  -L FILE     FILE exists and is a symbolic link (same as -h)\n" ++
    "  -N FILE     FILE exists and has been modified since it was last read\n" ++
    "  -O FILE     FILE exists and is owned by the effective user ID\n" ++
    "  -p FILE     FILE exists and is a named pipe\n" ++
    "  -r FILE     FILE exists and the user has read access\n" ++
    "  -s FILE     FILE exists and has a size greater than zero\n" ++
    "  -S FILE     FILE exists and is a socket\n" ++
    "  -t FD       file descriptor FD is opened on a terminal\n" ++
    "  -u FILE     FILE exists and its set-user-ID bit is set\n" ++
    "  -w FILE     FILE exists and the user has write access\n" ++
    "  -x FILE     FILE exists and the user has execute (or search) access\n\n" ++
    "Except for -h and -L, all FILE-related tests dereference symbolic links.\n" ++
    "Beware that parentheses need to be escaped (e.g., by backslashes) for shells.\n" ++
    "INTEGER may also be -l STRING, which evaluates to the length of STRING.\n\n" ++
    "NOTE: Binary -a and -o are inherently ambiguous.  Use 'test EXPR1 && test\n" ++
    "EXPR2' or 'test EXPR1 || test EXPR2' instead.\n\n" ++
    "NOTE: [ honors the --help and --version options, but test does not.\n" ++
    "test treats each of those as it treats any other nonempty STRING.\n" ++
    builtinNote "test and/or [")

end BoardSetup.Shell
