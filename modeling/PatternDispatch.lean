import PatternDispatch.CommandLine
import PatternDispatch.Main
import PatternDispatch.Proofs.Callbacks
import PatternDispatch.Proofs.Erasure
import PatternDispatch.Proofs.Matching
import PatternDispatch.Proofs.Hierarchy
import PatternDispatch.Proofs.Subtyping
import PatternDispatch.Proofs.FirstDefect
import PatternDispatch.Proofs.Equality
import PatternDispatch.Proofs.Congruence
import PatternDispatch.Proofs.EqualSubjects
import PatternDispatch.Proofs.Refusal
import PatternDispatch.Proofs.Concatenation
import PatternDispatch.Proofs.Inlining
import PatternDispatch.Proofs.Provenance
import PatternDispatch.Proofs.ErasedTags
import PatternDispatch.Proofs.Interning
import PatternDispatch.Proofs.Scoping
import PatternDispatch.Proofs.SequenceForms
import PatternDispatch.Proofs.Irrefutability
import PatternDispatch.Proofs.SequenceEnds
import PatternDispatch.Proofs.Resemblance
import PatternDispatch.Proofs.SelfComparison
import PatternDispatch.Proofs.ExplicitSpelling
import PatternDispatch.Proofs.Relevance
import PatternDispatch.Proofs.HierarchyGrowth
import PatternDispatch.Proofs.Rendering
import PatternDispatch.Proofs.Descriptions
import PatternDispatch.Proofs.SequenceSum
import PatternDispatch.Proofs.TrialDivision
