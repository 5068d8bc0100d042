import LogSieve.Notice
import LogSieve.Value

/-!
# Result lines

The lines in which commands show their results: headings, labelled values, and verdicts. An error is
no result but a notice, so that it is shown where other results are not.
-/

namespace LogSieve.Report

def header (about : Text) : Text := "== " ++ about ++ " =="

def item (label value : Text) : Text := "  " ++ label ++ ": " ++ value

/-- A line with a mark in brackets. -/
def marked (mark about : Text) : Text := "  [" ++ mark ++ "] " ++ about

def ok (about : Text) : Text := marked "OK" about

def drop (about : Text) : Text := marked "DROP" about

def warn (about : Text) : Text := marked "WARN" about

def error (about : Text) : Notice := .error ("  ERROR: " ++ about)

end LogSieve.Report
