import MessageTemplate.CommandLine.Program
import MessageTemplate.Main
import MessageTemplate.Plural.Cache
import MessageTemplate.Value.Inspect
import MessageTemplate.Proofs.Grammar
import MessageTemplate.Proofs.Reading
import MessageTemplate.Proofs.Tokens
import MessageTemplate.Proofs.Adequacy
import MessageTemplate.Proofs.Escapes
import MessageTemplate.Proofs.Concatenation
import MessageTemplate.Proofs.Enclosure
import MessageTemplate.Proofs.Catalogs
import MessageTemplate.Proofs.Integers
import MessageTemplate.Proofs.Occurrences
import MessageTemplate.Proofs.Agreement
import MessageTemplate.Proofs.Amounts
import MessageTemplate.Proofs.Numerals
import MessageTemplate.Proofs.Coherence
import MessageTemplate.Proofs.Extension
import MessageTemplate.Proofs.Enrichment
import MessageTemplate.Proofs.Relevance
import MessageTemplate.Proofs.DepthLimit
import MessageTemplate.Proofs.NestingLimit
import MessageTemplate.Proofs.OpenLevels
import MessageTemplate.Proofs.Backslashes
import MessageTemplate.Proofs.LiteralRanges
import MessageTemplate.Proofs.Spans
import MessageTemplate.Proofs.Offsets
import MessageTemplate.Proofs.Merging
import MessageTemplate.Proofs.FirstFault
import MessageTemplate.Proofs.Durations
import MessageTemplate.Proofs.Loading
import MessageTemplate.Proofs.LetterCase
import MessageTemplate.Proofs.Transparency
import MessageTemplate.Proofs.Names
import MessageTemplate.Proofs.Scanning
import MessageTemplate.Proofs.IndexedLiterals
import MessageTemplate.Proofs.IndexedParser
