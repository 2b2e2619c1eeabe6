import Tenancy.Unicode.Runs

/-!
# Composed characters

Many characters mean the same as a sequence of others, a letter and its marks for the most part. The
syllables of Hangul follow a rule and need no table.
-/

namespace Tenancy.Unicode

/-- `P` and two characters for a character that they make up, `Q` and a sequence for one that the
sequence replaces for good, `S` for characters that stand for themselves. -/
def compositionText : String :=
  String.join
    ["S5cP.1t.lcP.1t.ldP.1t.leP.1t.lfP.1t.lkP.1t.lmSP.1v.mfP.1x.lcP.1x.ldP.1x.leP.1x.lkP.21.lc",
     "P.21.ldP.21.leP.21.lkSP.26.lfP.27.lcP.27.ldP.27.leP.27.lfP.27.lkS2P.2d.lcP.2d.ldP.2d.le",
     "P.2d.lkP.2h.ldS2P.2p.lcP.2p.ldP.2p.leP.2p.lfP.2p.lkP.2p.lmSP.2r.mfP.2t.lcP.2t.ldP.2t.le",
     "P.2t.lkP.2x.lcP.2x.ldP.2x.leP.2x.lkSP.32.lfP.33.lcP.33.ldP.33.leP.33.lfP.33.lkS2P.39.lc",
     "P.39.ldP.39.leP.39.lkP.3d.ldSP.3d.lkP.1t.lgP.2p.lgP.1t.liP.2p.liP.1t.mgP.2p.mgP.1v.ldP.2r.ld",
     "P.1v.leP.2r.leP.1v.ljP.2r.ljP.1v.loP.2r.loP.1w.loP.2s.loS2P.1x.lgP.2t.lgP.1x.liP.2t.li",
     "P.1x.ljP.2t.ljP.1x.mgP.2t.mgP.1x.loP.2t.loP.1z.leP.2v.leP.1z.liP.2v.liP.1z.ljP.2v.ljP.1z.mf",
     "P.2v.mfP.20.leP.2w.leS2P.21.lfP.2x.lfP.21.lgP.2x.lgP.21.liP.2x.liP.21.mgP.2x.mgP.21.ljS3",
     "P.22.leP.2y.leP.23.mfP.2z.mfSP.24.ldP.30.ldP.24.mfP.30.mfP.24.loP.30.loS4P.26.ldP.32.ld",
     "P.26.mfP.32.mfP.26.loP.32.loS3P.27.lgP.33.lgP.27.liP.33.liP.27.lnP.33.lnS2P.2a.ldP.36.ld",
     "P.2a.mfP.36.mfP.2a.loP.36.loP.2b.ldP.37.ldP.2b.leP.37.leP.2b.mfP.37.mfP.2b.loP.37.loP.2c.mf",
     "P.38.mfP.2c.loP.38.loS2P.2d.lfP.39.lfP.2d.lgP.39.lgP.2d.liP.39.liP.2d.lmP.39.lmP.2d.ln",
     "P.39.lnP.2d.mgP.39.mgP.2f.leP.3b.leP.2h.leP.3d.leP.2h.lkP.2i.ldP.3e.ldP.2i.ljP.3e.ljP.2i.lo",
     "P.3e.loSxP.27.m3P.33.m3SdP.2d.m3P.39.m3SsP.1t.loP.2p.loP.21.loP.2x.loP.27.loP.33.loP.2d.lo",
     "P.39.loP.64.lgP.70.lgP.64.ldP.70.ldP.64.loP.70.loP.64.lcP.70.lcSP.5g.lgP.6c.lgP.fa.lgP.fb.lg",
     "P.5i.lgP.6e.lgS2P.1z.loP.2v.loP.23.loP.2z.loP.27.mgP.33.mgP.dm.lgP.dn.lgP.c7.loP.ia.lo",
     "P.2y.loS3P.1z.ldP.2v.ldS2P.26.lcP.32.lcP.5h.ldP.6d.ldP.5i.ldP.6e.ldP.60.ldP.6w.ldP.1t.lr",
     "P.2p.lrP.1t.ltP.2p.ltP.1x.lrP.2t.lrP.1x.ltP.2t.ltP.21.lrP.2x.lrP.21.ltP.2x.ltP.27.lrP.33.lr",
     "P.27.ltP.33.ltP.2a.lrP.36.lrP.2a.ltP.36.ltP.2d.lrP.39.lrP.2d.ltP.39.ltP.2b.meP.37.meP.2c.me",
     "P.38.meS2P.20.loP.2w.loS6P.1t.ljP.2p.ljP.1x.mfP.2t.mfP.5y.lgP.6u.lgP.5x.lgP.6t.lgP.27.lj",
     "P.33.ljP.fi.lgP.fj.lgP.2h.lgP.3d.lgS7gQ.lcQ.ldSQ.lvQ.lk.ldS1bQ.jdS9Q.1nS6P.4o.ldP.pd.ldQ.53",
     "P.ph.ldP.pj.ldP.pl.ldSP.pr.ldSP.px.ldP.q1.ldP.qy.ldSpP.pl.lkP.px.lkP.q9.ldP.qd.ldP.qf.ld",
     "P.qh.ldP.qz.ldSpP.qh.lkP.qt.lkP.qn.ldP.qt.ldP.qx.ldS4P.r6.ldP.r6.lkS17P.t1.lcP.t1.lkSP.sz.ld",
     "S3P.sm.lkS4P.t6.ldP.t4.lcP.tf.liSaP.t4.liSvP.u0.liSmP.tx.lcP.tx.lkSP.tv.ldS3P.uu.lkS4P.u2.ld",
     "P.u0.lcP.ub.liSnP.vo.lrP.vp.lrS21P.t2.liP.ty.liSdP.sw.liP.ts.liP.sw.lkP.ts.lkS2P.t1.li",
     "P.tx.liS2P.yg.lkP.yh.lkP.t2.lkP.ty.lkP.t3.lkP.tz.lkS2P.t4.lgP.u0.lgP.t4.lkP.u0.lkP.ta.lk",
     "P.u6.lkS2P.yw.lkP.yx.lkP.tp.lkP.ul.lkP.tf.lgP.ub.lgP.tf.lkP.ub.lkP.tf.lnP.ub.lnP.tj.lk",
     "P.uf.lkS2P.tn.lkP.uj.lkS88P.17r.18zP.17r.190P.18o.190P.17r.191P.18q.190S49P.1cl.190S",
     "P.1c1.190SgP.1ci.190SglP.1t4.1toS7P.1tc.1toS2P.1tf.1toSzQ.1sl.1toQ.1sm.1toQ.1sn.1toQ.1ss.1to",
     "Q.1sx.1toQ.1sy.1toQ.1t7.1toQ.1tb.1toS2zP.1xj.1xaP.1xj.1xzSfQ.1wh.1x8Q.1wi.1x8SQ.1wv.1x8S2b",
     "Q.20i.20sS2Q.20o.20sSyQ.1zq.20sQ.1zr.20sQ.1zw.20sS2Q.20b.20sS6hP.287.28mS2P.287.27yP.287.28n",
     "SfQ.275.27wQ.276.27wS1iP.2aa.2c7S1hP.2bq.2biP.2br.2biP.2bq.2c7S3fP.2fa.2fqS3bP.2in.2j9S6",
     "P.2iu.2j9P.2iu.2jaSP.2iu.2iqP.2iy.2j9S3iP.2me.2m6P.2mf.2m6P.2me.2mvS3xP.2qh.2q2SP.2qh.2q7",
     "P.2qk.2q2P.2qh.2qnS9wQ.30i.33rS9Q.30s.33rS4Q.30x.33rS4Q.312.33rS4Q.317.33rScQ.30g.33pS9",
     "Q.31t.31uSQ.31t.31wQ.33m.328SQ.33n.328S8Q.31t.328ShQ.32q.33rS9Q.330.33rS4Q.335.33rS4",
     "Q.33a.33rS4Q.33f.33rScQ.32o.33pS30P.36t.372S25bP.5c5.5dhSP.5c7.5dhSP.5c9.5dhSP.5cb.5dhS",
     "P.5cd.5dhS3P.5ch.5dhS14P.5dm.5dhSP.5do.5dhS2P.5dq.5dhP.5dr.5dhSP.5du.5dhSjgP.1t.mdP.2p.md",
     "P.1u.ljP.2q.ljP.1u.mbP.2q.mbP.1u.mpP.2q.mpP.5j.ldP.6f.ldP.1w.ljP.2s.ljP.1w.mbP.2s.mbP.1w.mp",
     "P.2s.mpP.1w.mfP.2s.mfP.1w.mlP.2s.mlP.7m.lcP.7n.lcP.7m.ldP.7n.ldP.1x.mlP.2t.mlP.1x.moP.2t.mo",
     "P.fc.liP.fd.liP.1y.ljP.2u.ljP.1z.lgP.2v.lgP.20.ljP.2w.ljP.20.mbP.2w.mbP.20.lkP.2w.lkP.20.mf",
     "P.2w.mfP.20.mmP.2w.mmP.21.moP.2x.moP.5r.ldP.6n.ldP.23.ldP.2z.ldP.23.mbP.2z.mbP.23.mpP.2z.mp",
     "P.24.mbP.30.mbP.5yu.lgP.5yv.lgP.24.mpP.30.mpP.24.mlP.30.mlP.25.ldP.31.ldP.25.ljP.31.lj",
     "P.25.mbP.31.mbP.26.ljP.32.ljP.26.mbP.32.mbP.26.mpP.32.mpP.26.mlP.32.mlP.5x.ldP.6t.ldP.5x.lk",
     "P.6t.lkP.98.lcP.99.lcP.98.ldP.99.ldP.28.ldP.34.ldP.28.ljP.34.ljP.2a.ljP.36.ljP.2a.mbP.36.mb",
     "P.5zu.lgP.5zv.lgP.2a.mpP.36.mpP.2b.ljP.37.ljP.2b.mbP.37.mbP.9m.ljP.9n.ljP.9s.ljP.9t.lj",
     "P.602.ljP.603.ljP.2c.ljP.38.ljP.2c.mbP.38.mbP.2c.mpP.38.mpP.2c.mlP.38.mlP.2d.mcP.39.mc",
     "P.2d.moP.39.moP.2d.mlP.39.mlP.a0.ldP.a1.ldP.a2.lkP.a3.lkP.2e.lfP.3a.lfP.2e.mbP.3a.mbP.2f.lc",
     "P.3b.lcP.2f.ldP.3b.ldP.2f.lkP.3b.lkP.2f.ljP.3b.ljP.2f.mbP.3b.mbP.2g.ljP.3c.ljP.2g.lkP.3c.lk",
     "P.2h.ljP.3d.ljP.2i.leP.3e.leP.2i.mbP.3e.mbP.2i.mpP.3e.mpP.2w.mpP.38.lkP.3b.lmP.3d.lmSP.an.lj",
     "S4P.1t.mbP.2p.mbP.1t.llP.2p.llP.5e.ldP.6a.ldP.5e.lcP.6a.lcP.5e.llP.6a.llP.5e.lfP.6a.lf",
     "P.61s.leP.61t.leP.76.ldP.77.ldP.76.lcP.77.lcP.76.llP.77.llP.76.lfP.77.lfP.61s.liP.61t.li",
     "P.1x.mbP.2t.mbP.1x.llP.2t.llP.1x.lfP.2t.lfP.5m.ldP.6i.ldP.5m.lcP.6i.lcP.5m.llP.6i.llP.5m.lf",
     "P.6i.lfP.62g.leP.62h.leP.21.llP.2x.llP.21.mbP.2x.mbP.27.mbP.33.mbP.27.llP.33.llP.5w.ld",
     "P.6s.ldP.5w.lcP.6s.lcP.5w.llP.6s.llP.5w.lfP.6s.lfP.630.leP.631.leP.bk.ldP.bl.ldP.bk.lc",
     "P.bl.lcP.bk.llP.bl.llP.bk.lfP.bl.lfP.bk.mbP.bl.mbP.2d.mbP.39.mbP.2d.llP.39.llP.bz.ldP.c0.ld",
     "P.bz.lcP.c0.lcP.bz.llP.c0.llP.bz.lfP.c0.lfP.bz.mbP.c0.mbP.2h.lcP.3d.lcP.2h.mbP.3d.mbP.2h.ll",
     "P.3d.llP.2h.lfP.3d.lfS6P.q9.lvP.q9.lwP.64g.lcP.64h.lcP.64g.ldP.64h.ldP.64g.n6P.64h.n6P.pd.lv",
     "P.pd.lwP.64o.lcP.64p.lcP.64o.ldP.64p.ldP.64o.n6P.64p.n6P.qd.lvP.qd.lwP.64w.lcP.64x.lc",
     "P.64w.ldP.64x.ldS2P.ph.lvP.ph.lwP.654.lcP.655.lcP.654.ldP.655.ldS2P.qf.lvP.qf.lwP.65c.lc",
     "P.65d.lcP.65c.ldP.65d.ldP.65c.n6P.65d.n6P.pj.lvP.pj.lwP.65k.lcP.65l.lcP.65k.ldP.65l.ld",
     "P.65k.n6P.65l.n6P.qh.lvP.qh.lwP.65s.lcP.65t.lcP.65s.ldP.65t.ldP.65s.n6P.65t.n6P.pl.lvP.pl.lw",
     "P.660.lcP.661.lcP.660.ldP.661.ldP.660.n6P.661.n6P.qn.lvP.qn.lwP.668.lcP.669.lcP.668.ld",
     "P.669.ldS2P.pr.lvP.pr.lwP.66g.lcP.66h.lcP.66g.ldP.66h.ldS2P.qt.lvP.qt.lwP.66o.lcP.66p.lc",
     "P.66o.ldP.66p.ldP.66o.n6P.66p.n6SP.px.lwSP.66x.lcSP.66x.ldSP.66x.n6P.qx.lvP.qx.lwP.674.lc",
     "P.675.lcP.674.ldP.675.ldP.674.n6P.675.n6P.q1.lvP.q1.lwP.67c.lcP.67d.lcP.67c.ldP.67d.ld",
     "P.67c.n6P.67d.n6P.q9.lcQ.q9.ldP.qd.lcQ.qd.ldP.qf.lcQ.qf.ldP.qh.lcQ.qh.ldP.qn.lcQ.qn.ld",
     "P.qt.lcQ.qt.ldP.qx.lcQ.qx.ldS2P.64g.n9P.64h.n9P.64i.n9P.64j.n9P.64k.n9P.64l.n9P.64m.n9",
     "P.64n.n9P.64o.n9P.64p.n9P.64q.n9P.64r.n9P.64s.n9P.64t.n9P.64u.n9P.64v.n9P.65c.n9P.65d.n9",
     "P.65e.n9P.65f.n9P.65g.n9P.65h.n9P.65i.n9P.65j.n9P.65k.n9P.65l.n9P.65m.n9P.65n.n9P.65o.n9",
     "P.65p.n9P.65q.n9P.65r.n9P.674.n9P.675.n9P.676.n9P.677.n9P.678.n9P.679.n9P.67a.n9P.67b.n9",
     "P.67c.n9P.67d.n9P.67e.n9P.67f.n9P.67g.n9P.67h.n9P.67i.n9P.67j.n9P.q9.liP.q9.lgP.67k.n9",
     "P.q9.n9P.q4.n9SP.q9.n6P.69i.n9P.pd.liP.pd.lgP.pd.lcQ.pd.ldP.pd.n9SQ.qhS2P.4o.n6P.67o.n9",
     "P.qf.n9P.q6.n9SP.qf.n6P.69y.n9P.ph.lcQ.ph.ldP.pj.lcQ.pj.ldP.pj.n9P.69r.lcP.69r.ldP.69r.n6",
     "P.qh.liP.qh.lgP.qy.lcQ.qh.lk.ldS2P.qh.n6P.qy.n6P.pl.liP.pl.lgP.pl.lcQ.pl.ldSP.6bi.lcP.6bi.ld",
     "P.6bi.n6P.qt.liP.qt.lgP.qz.lcQ.qt.lk.ldP.qp.lvP.qp.lwP.qt.n6P.qz.n6P.px.liP.px.lgP.px.lc",
     "Q.px.ldP.pt.lwP.4o.lcQ.4o.ldQ.2oS2P.67w.n9P.qx.n9P.r2.n9SP.qx.n6P.6ba.n9P.pr.lcQ.pr.ld",
     "P.q1.lcQ.q1.ldP.q1.n9Q.50S2Q.6bmQ.6bnS84Q.q1S3Q.23Q.1t.lmS32P.6mo.mwP.6mq.mwSiP.6ms.mwSu",
     "P.6og.mwP.6ok.mwP.6oi.mwS1gP.6pv.mwS4P.6q0.mwS2P.6q3.mwSnP.6qr.mwSP.6qt.mwSqP.6rg.mwS2",
     "P.6rn.mwS2P.6rp.mwSP.6rs.mwSmP.1p.mwSP.6sh.mwSaP.6rx.mwP.1o.mwP.1q.mwP.6sk.mwP.6sl.mwS2",
     "P.6sy.mwP.6sz.mwS2P.6t2.mwP.6t3.mwS6P.6t6.mwP.6t7.mwS2P.6te.mwP.6tf.mwS2P.6ti.mwP.6tj.mwSy",
     "P.6ua.mwP.6ug.mwP.6uh.mwP.6uj.mwS1cP.6t8.mwP.6t9.mwP.6tt.mwP.6tu.mwS6P.6uq.mwP.6ur.mw",
     "P.6us.mwP.6ut.mwS1nQ.9hkQ.9hlS1ipQ.8gt.mwS12nP.9jf.9llSP.9jh.9llSP.9jj.9llSP.9jl.9llS",
     "P.9jn.9llSP.9jp.9llSP.9jr.9llSP.9jt.9llSP.9jv.9llSP.9jx.9llSP.9jz.9llSP.9k1.9llS2P.9k4.9llS",
     "P.9k6.9llSP.9k8.9llS6P.9kf.9llP.9kf.9lmSP.9ki.9llP.9ki.9lmSP.9kl.9llP.9kl.9lmSP.9ko.9ll",
     "P.9ko.9lmSP.9kr.9llP.9kr.9lmSmP.9ja.9llS9P.9lp.9llSdP.9m3.9llSP.9m5.9llSP.9m7.9llSP.9m9.9llS",
     "P.9mb.9llSP.9md.9llSP.9mf.9llSP.9mh.9llSP.9mj.9llSP.9ml.9llSP.9mn.9llSP.9mp.9llS2P.9ms.9llS",
     "P.9mu.9llSP.9mw.9llS6P.9n3.9llP.9n3.9lmSP.9n6.9llP.9n6.9lmSP.9n9.9llP.9n9.9lmSP.9nc.9ll",
     "P.9nc.9lmSP.9nf.9llP.9nf.9lmSmP.9ly.9llS2P.9nz.9llP.9o0.9llP.9o1.9llP.9o2.9llS3P.9od.9ll",
     "S13i9Q.rpkQ.kc4Q.s7eQ.rt4Q.lw1Q.fg2Q.gklQ.vj0Q.vj0Q.hn5Q.ssxQ.gw7Q.hmwQ.jcmQ.ne1Q.p6tQ.qin",
     "Q.qt6Q.r20Q.sjzQ.kxuQ.ljvQ.mahQ.mvyQ.q4dQ.sq2Q.uepQ.fiaQ.ghhQ.l50Q.mjfQ.qi5Q.v8eQ.ifkQ.m3v",
     "Q.qfhQ.r50Q.jihQ.pncQ.qvzQ.iq2Q.kd3Q.lm2Q.mpoQ.slqQ.fpiQ.g53Q.gdaQ.jwkQ.l3nQ.mj4Q.nhjQ.pa9",
     "Q.qh2Q.qjgQ.s1bQ.tv6Q.upbQ.v7eQ.nt8Q.nzzQ.otcQ.q15Q.t1gQ.vb3Q.rfaQ.hjzQ.iroQ.okgQ.pdqQ.mle",
     "Q.nuyQ.rsyQ.ttjQ.hjsQ.i8yQ.kybQ.lp6Q.lxrQ.oq7Q.oxjQ.torQ.gcyQ.pe3Q.g64Q.g5oQ.o4cQ.ou6Q.q29",
     "Q.tpxQ.rk0Q.jinQ.kxuQ.rgeQ.fg9Q.i5jQ.iz6Q.mtjQ.n74Q.gevQ.nwbQ.fr3Q.iw9Q.ff1Q.lhoQ.k1kQ.opu",
     "Q.gjnQ.hgeQ.ni9Q.q4pQ.re2Q.la2Q.sdsQ.lfsQ.jjyQ.putQ.jogQ.n6tQ.fjiQ.g2xQ.g5lQ.kn5Q.oo7Q.prj",
     "Q.rf6Q.ssvQ.gdxQ.gn6Q.ho3Q.ir0Q.k3pQ.m4eQ.nxmQ.tkdQ.ui2Q.vbrQ.vdaQ.gbfQ.kauQ.l87Q.sbmQ.ino",
     "Q.j9sQ.jcwQ.jveQ.lybQ.mdlQ.n0pQ.o22Q.ovoQ.pdbQ.s9yQ.q9aQ.sgzQ.t3eQ.g7rQ.gbnQ.gqlQ.ma0Q.r0i",
     "Q.re2Q.iq1Q.iydQ.jnfQ.l9qQ.ojiQ.mt1Q.fl0Q.h6hQ.i5jQ.iiiQ.izgQ.muqQ.mztQ.p7eQ.pc6Q.svoQ.tti",
     "Q.tvsQ.u1kQ.fpnQ.o1aQ.ss4Q.trsQ.j4xQ.fieQ.fyyQ.i5qQ.i7zQ.k2hQ.kxuQ.mhaQ.ncyQ.q9oQ.sjgQ.vil",
     "Q.k94Q.tnyQ.gaxQ.kfvQ.kj7Q.lkxQ.lukQ.mx5Q.n6hQ.nsbQ.opcQ.u3iQ.g31Q.je6Q.tq0Q.fu3Q.ie1Q.lpm",
     "Q.sa2Q.ivfQ.j7oQ.kk7Q.mtjQ.tqeQ.g89Q.glrQ.i91Q.k5vQ.kemQ.ko8Q.lidQ.mx2Q.naaQ.p6hQ.r0vQ.r1d",
     "Q.sssQ.tsyQ.gfzQ.lveQ.gm5Q.mhcQ.n14Q.qgqQ.tr7Q.uvrQ.vbzQ.kgnQ.lorQ.pnsQ.o97Q.obkQ.oluQ.mo0",
     "Q.m8pQ.riwQ.fk0Q.px2Q.g8qQ.g7bQ.ip2Q.jirQ.onqQ.i2tQ.ljyQ.kacQ.sajQ.qx8Q.totQ.r63Q.iqbQ.g1s",
     "Q.gxsS2Q.hgaSQ.k8kS2Q.g66Q.mqyQ.ngqQ.ny4Q.nz2Q.nz9Q.o0fQ.tw6Q.on2Q.p8dSQ.qheSQ.rg8S2Q.shk",
     "Q.sn1S3Q.u7jQ.u7wQ.u94Q.v5gQ.sm6Q.trrQ.fqmQ.fzbQ.g25Q.gcpQ.gdgQ.gghQ.gwtQ.gzqQ.h2gQ.hfkQ.hig",
     "Q.i90Q.i9aQ.j2sQ.j8oQ.j9qQ.jciQ.k0fQ.k4iQ.k9dQ.kn9Q.lmfQ.lqyQ.lyaQ.memQ.mjvQ.mxuQ.ntdQ.ny6",
     "Q.nyhQ.nygQ.nyoQ.nyuQ.nz1Q.o0dQ.o0eQ.o5cQ.o75Q.og0Q.ovoQ.ow9Q.oxtQ.p6aQ.padQ.pnxQ.prtQ.prt",
     "Q.q53Q.r2oQ.r6eQ.rghQ.ri1Q.rtfQ.ruwQ.sdyQ.shkQ.tszQ.u0vQ.u2jQ.j1xQ.36cuQ.pp4S2Q.ffqQ.g51",
     "Q.g2wQ.fpcQ.g1xQ.g3kQ.gcnQ.ge2Q.gwtQ.gutQ.gwpQ.gyqQ.hgaQ.hirQ.hmsQ.hn8Q.huqQ.i08Q.iqaQ.iqh",
     "Q.iuhQ.iwdQ.j4oQ.j7yQ.j60Q.j9qQ.j8gQ.jciQ.jecQ.jpgQ.jrwQ.jteQ.k0mQ.k8kQ.kd3Q.kd7Q.keuQ.l89",
     "Q.la2Q.lkxQ.lwbQ.lvvQ.lyaQ.m5aQ.memQ.nmvQ.mk5Q.mnjQ.mqyQ.n01Q.n46Q.n5nQ.nbxQ.nbzQ.ngqQ.nh7",
     "Q.nhwQ.nkaQ.nk0Q.nv0Q.o8hQ.og0Q.ol7Q.orfQ.ovoQ.p4uQ.padQ.pxuQ.q27Q.qrdQ.r41Q.r5yQ.r6eQ.ren",
     "Q.rg8Q.rezQ.rghQ.rgeQ.rfxQ.ri1Q.rkaQ.ruwQ.sagQ.sj6Q.srdQ.sxiQ.tq4Q.tszQ.tw6Q.tzvQ.u0vQ.u17",
     "Q.u2jQ.umqQ.vj0Q.313eQ.3138Q.33dhQ.brxQ.cnsQ.copQ.39e1Q.3bgwQ.3i6rQ.vgjQ.vimS1vQ.15l.14kS",
     "Q.16a.14nSaQ.161.14xQ.161.14yQ.161.14s.14xQ.161.14s.14yQ.15c.14nQ.15c.14oQ.15c.14sQ.15d.14s",
     "Q.15e.14sQ.15f.14sQ.15g.14sQ.15h.14sQ.15i.14sSQ.15k.14sQ.15l.14sQ.15m.14sQ.15n.14sQ.15o.14sS",
     "Q.15q.14sSQ.15s.14sQ.15t.14sSQ.15v.14sQ.15w.14sSQ.15y.14sQ.15z.14sQ.160.14sQ.161.14s",
     "Q.162.14sQ.15h.14pQ.15d.14vQ.15n.14vQ.15w.14vS22iP.1fpu.ljSqP.1fq2.ljS245P.1huh.1hveS",
     "P.1huj.1hveSeP.1hut.1hveS3mP.1hyp.1hyfP.1hyq.1hyfSezP.1idj.1idaP.1idj.1idzS1iP.1if6.1ih5S",
     "P.1if8.1igrS8P.1iff.1igyS2P.1ifk.1ih5S1fP.1igy.1igySP.1igy.1igoP.1igy.1ih5S6qP.1int.1inu",
     "P.1int.1inkSP.1int.1inxS6zP.1iuw.1iunP.1iux.1iunSosP.1jjp.1jjkSe7cP.1xr2.1xr2P.1xr2.1xrd",
     "P.1xr2.1xr3P.1xrd.1xr3P.1xr2.1xr4P.1xr5.1xr3P.1xr6.1xr3P.1xr5.1xr4S2f3P.206f.206fP.206b.206f",
     "P.206h.206fSjqrQ.2jx3.2jxhQ.2jx4.2jxhQ.2jx4.2jxh.2jxqQ.2jx4.2jxh.2jxrQ.2jx4.2jxh.2jxs",
     "Q.2jx4.2jxh.2jxtQ.2jx4.2jxh.2jxuS2eQ.2jzt.2jxhQ.2jzu.2jxhQ.2jzt.2jxh.2jxqQ.2jzu.2jxh.2jxq",
     "Q.2jzt.2jxh.2jxrQ.2jzu.2jxh.2jxrS1m4fQ.fgdQ.fg8Q.fghQ.2tcyQ.fogQ.fqmQ.fqzQ.fsyQ.fwaQ.fx5",
     "Q.fzbQ.fynQ.ae6Q.2ud6Q.g25Q.g2cQ.g2sQ.g3bQ.2u58Q.aexQ.g2vQ.g3xQ.2u6jQ.g47Q.g4kQ.fkcQ.g4s",
     "Q.g51Q.3ly7Q.g6tQ.g77Q.afzQ.g8rQ.g92Q.gaaQ.gafQ.ahhQ.gcnQ.gcpQ.gdgQ.ge2Q.gedQ.geeQ.gevQ.gg9",
     "Q.gghQ.ggqQ.ghfQ.ghpQ.ghrQ.ghrQ.ghrQ.2v58Q.m7kQ.gjuQ.gkfQ.2vdvQ.gkrQ.gkxQ.gliQ.gpqQ.gmwQ.gnc",
     "Q.go8Q.gpuQ.gs6Q.gswQ.gurQ.gv7Q.gw4Q.gw4Q.gwpQ.gx7Q.gxfQ.gxuQ.h7aQ.gzqQ.h7bQ.h1tQ.h2sQ.g7b",
     "Q.hkeQ.hceQ.hdgQ.he5Q.hajQ.hf6Q.hf5Q.hikQ.2x9gQ.hkiQ.hknQ.hl2Q.hlmQ.hluQ.hnmQ.2xm0Q.2xnu",
     "Q.hrgQ.hsrQ.ht3Q.hqwQ.huuQ.aumQ.av0Q.hzcQ.i0uQ.i0uQ.2y88Q.i4jQ.i54Q.i5jQ.i5vQ.2yhkQ.i67Q.i6e",
     "Q.itvQ.i76Q.aypQ.i8wQ.i9aQ.ibkQ.ia5Q.2z1gQ.if7Q.2z1iQ.igeQ.igbQ.igsQ.ijlQ.ijmQ.b3jQ.ikdQ.ilk",
     "Q.im5Q.indQ.b4yQ.2zr7Q.b5oQ.ipcQ.ipfQ.ipiQ.iq2Q.3pg2Q.iriQ.3035Q.3035Q.pohQ.isiQ.isiQ.b7r",
     "Q.335kQ.3cgqQ.iuaQ.iujQ.b8jQ.ivuQ.ix9Q.ixjQ.iyhQ.j29Q.bayQ.ba4Q.j2sQ.30t0Q.j47Q.j7sQ.j7w",
     "Q.j7yQ.j7wQ.j96Q.j9qQ.jaqQ.jacQ.janQ.jbyQ.jciQ.jcmQ.jdcQ.jdnQ.jfhQ.jhtQ.jisQ.jm8Q.31n0Q.jlp",
     "Q.jjwQ.jmwQ.jnnQ.jqcQ.31tdQ.js2Q.jphQ.jopQ.bhqQ.ju1Q.jumQ.jvhQ.jufQ.bjgQ.k0fQ.k18Q.32miQ.k4j",
     "Q.kc8Q.k7dQ.bo9Q.k9dQ.bnsQ.bmsQ.g42Q.g45Q.kcgQ.k9oQ.pf1Q.dehQ.kd3Q.kd7Q.kddQ.kf2Q.kerQ.33cz",
     "Q.bplQ.kjeQ.kg5Q.kluQ.kn9Q.33hpQ.kniQ.kkfQ.kr8Q.brxQ.ksiQ.kv7Q.kx6Q.l2gQ.33xfQ.l3vQ.bvcQ.l5t",
     "Q.34brQ.l78Q.bwuQ.l82Q.l9bQ.la2Q.la3Q.34p9Q.2yvfQ.34saQ.le6Q.354sQ.lhbQ.lhpQ.levQ.ljqQ.lku",
     "Q.lmfQ.lkxQ.lm1Q.lmgQ.lmtQ.357iQ.lkkQ.lrjQ.ltaQ.c37Q.lvvQ.lvrQ.35jlQ.lq1Q.m0eQ.35niQ.35ou",
     "Q.m2uQ.m61Q.m5aQ.m57Q.c5yQ.m6iQ.m7xQ.m7rQ.m99Q.2u5hQ.mdhQ.368zQ.mfwQ.36i3Q.mjsQ.mk5Q.mkw",
     "Q.36ywQ.mm8Q.mmtQ.3779Q.37dgQ.mt6Q.mtnQ.cdoQ.mudQ.ce0Q.ce0Q.myvQ.mzgQ.n01Q.n0lQ.n2iQ.cgr",
     "Q.n50Q.386uQ.n5qQ.389eQ.n74Q.2zrzQ.nbkQ.38v5Q.38vsQ.38zoQ.cn0Q.cncQ.nhwQ.394jQ.394iQ.395l",
     "Q.396bQ.nj2Q.nj3Q.nj3Q.nkaQ.copQ.nm3Q.cp2Q.craQ.39r1Q.nriQ.nt8Q.nv0Q.ctfQ.3a5iQ.nyuQ.3a8q",
     "Q.3a9xQ.o0fQ.o2zQ.cvjQ.o5cQ.o5mQ.o5rQ.3at8Q.3b1jQ.3b1jQ.oa6Q.d1eQ.3b8rQ.og6Q.og9Q.d2fQ.3beo",
     "Q.onmQ.d5sQ.oo8Q.oo3Q.oowQ.3c06Q.ornQ.d8hQ.oufQ.ow2Q.oxxQ.d9wQ.3ciwQ.3cjrQ.daxQ.3cntQ.p6i",
     "Q.3cqmQ.p79Q.pa2Q.padQ.3d22Q.3d43Q.pcwQ.3d7sQ.pdcQ.33a7Q.dedQ.pf6Q.phfQ.dfvQ.pj2Q.hx1Q.3dlz",
     "Q.3dmdQ.33bnQ.33bwQ.pohQ.pokQ.sdaQ.dijQ.pshQ.psbQ.pstQ.gc3Q.ptdQ.ptfQ.ptpQ.puuQ.3ebgQ.put",
     "Q.pwdQ.pybQ.q0dQ.pwjQ.q0tQ.q1zQ.q53Q.pxvQ.q16Q.q18Q.q1oQ.3eieQ.3eqzQ.3emtQ.dnvQ.q9dQ.q9f",
     "Q.qaeQ.3g0aQ.qckQ.3f3gQ.dp9Q.dpdQ.3f75Q.3ff6Q.dpnQ.qj4Q.qjgQ.qjrQ.qjtQ.qllQ.qkoQ.qoeQ.qn6",
     "Q.qrdQ.qp4Q.qqzQ.qrqQ.dsnQ.qu9Q.qv5Q.dtlQ.qxsQ.qxvQ.3givQ.r13Q.r1aQ.dv9Q.r22Q.aezQ.3gz2",
     "Q.3h46Q.dz2Q.dzbQ.rdsQ.rfxQ.rkaQ.rpxQ.3hrcQ.rsbQ.rsxQ.rvfQ.rxzQ.3i9bQ.2upwQ.s0bQ.rzwQ.s1c",
     "Q.2uvyQ.s7oQ.sagQ.3jkiQ.3jl9Q.sk4Q.smpQ.snlQ.3ju6Q.snvQ.svsQ.t07Q.t08Q.sxoQ.t89Q.t91Q.3ksa",
     "Q.tjfQ.ej9Q.tknQ.3l2vQ.eliQ.ts3Q.iiaQ.turQ.3ltxQ.3lzuQ.epaQ.epiQ.u00Q.3mdmQ.er6Q.3mhiQ.u17",
     "Q.u17Q.u21Q.3mpiQ.u76Q.eurQ.u95Q.ucnQ.udeQ.uf2Q.ez2Q.3nsgQ.umqQ.uv4Q.v0dQ.f66Q.f71Q.v3b",
     "Q.3oweQ.f7cQ.3oxxQ.3p5aQ.3p8xQ.vcrQ.f9yQ.vehQ.vemQ.vetQ.vf3Q.vfaQ.vgbQ.3pxcSjp42"]

/-- What every character is made up of. -/
def composition : Table := .ofText compositionText

/-- Pairs of characters and what they make up. -/
def pairs : List (Char × Char × Char) :=
  composition.entries.toList.filterMap fun (start, r) =>
    match r.kind, r.numbers with
    | 'P', [a, b] => some (Char.ofNat a, Char.ofNat b, Char.ofNat start)
    | _, _ => none

/-- The first syllable of Hangul. -/
def firstSyllable : Nat := 0xAC00

/-- How many syllables there are. -/
def syllableCount : Nat := 11172

/-- The letters of a syllable of Hangul: a leading consonant, a vowel, perhaps a closing one. -/
def syllableLetters? (c : Char) : Option (List Char) :=
  let n := c.toNat - firstSyllable
  if c.toNat < firstSyllable || syllableCount ≤ n then none
  else
    let closing := if n % 28 = 0 then [] else [Char.ofNat (0x11A7 + n % 28)]
    some (Char.ofNat (0x1100 + n / 588) :: Char.ofNat (0x1161 + n % 588 / 28) :: closing)

/-- The syllable that a leading consonant and a vowel make up, or a syllable and a closing one. -/
def syllable? (a b : Char) : Option Char :=
  let n := a.toNat - firstSyllable
  if 0x1100 ≤ a.toNat && a.toNat < 0x1113 && 0x1161 ≤ b.toNat && b.toNat < 0x1176 then
    some (Char.ofNat (firstSyllable + (a.toNat - 0x1100) * 588 + (b.toNat - 0x1161) * 28))
  else if firstSyllable ≤ a.toNat && n < syllableCount && n % 28 = 0 && 0x11A7 < b.toNat
      && b.toNat < 0x11C3 then
    some (Char.ofNat (a.toNat + (b.toNat - 0x11A7)))
  else none

/-- What a character is made up of, all the way down. No character is nested more than four deep. -/
def decompose : Nat → Char → List Char
  | 0, c => [c]
  | depth + 1, c =>
    match syllableLetters? c with
    | some letters => letters
    | none =>
      match composition.find? c with
      | some (_, ⟨'P', _, [a, b]⟩) => decompose depth (Char.ofNat a) ++ [Char.ofNat b]
      | some (_, ⟨'Q', _, parts⟩) => parts.map Char.ofNat
      | _ => [c]

/-- What two characters make up, if they make up anything. -/
def compose? (a b : Char) : Option Char :=
  (syllable? a b).or ((pairs.find? fun p => p.1 = a && p.2.1 = b).map (·.2.2))

end Tenancy.Unicode
