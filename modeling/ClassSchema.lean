import ClassSchema.Files.Tree
import ClassSchema.Main
import ClassSchema.Proofs.Compile.Composition
import ClassSchema.Proofs.Compile.Correlation
import ClassSchema.Proofs.Compile.Key
import ClassSchema.Proofs.Compile.Membership
import ClassSchema.Proofs.Compile.Multiplicity
import ClassSchema.Proofs.Compile.Names
import ClassSchema.Proofs.Compile.Order
import ClassSchema.Proofs.Compile.Package
import ClassSchema.Proofs.Compile.Pairing
import ClassSchema.Proofs.Compile.Presence
import ClassSchema.Proofs.Compile.Repetition
import ClassSchema.Proofs.Compile.Undeclared
import ClassSchema.Proofs.Model.Classification
import ClassSchema.Proofs.Model.Spelling
import ClassSchema.Proofs.Population.Interleaving
import ClassSchema.Proofs.Schema.Ddl
import ClassSchema.Proofs.Store.Agreement
import ClassSchema.Proofs.Store.Concealment
import ClassSchema.Proofs.Store.Identifiers
import ClassSchema.Proofs.Store.Listing
import ClassSchema.Proofs.Store.Replay
